import TypeLint.Text.Basic

/-!
# Table of names

The names of the code points of Unicode 14.0, apart from those that a rule forms.  The names of code points
that follow each other often start alike, so the table is a list of *runs*: the first code point, how the
names start, and how each of them goes on.

* `NameRun.find?` — the code point of a run that has a name;
* `nameRuns` — all names and, behind them, the further names that some code points have.
-/

namespace TypeLint

/-- Names of code points that follow each other. -/
structure NameRun where
  /-- the number of the first code point -/
  first : Nat
  /-- how all the names start -/
  stem : String
  /-- how each name goes on, with bars between them -/
  ends : List String

namespace NameRun

/-- The number of the code point with that name. -/
def find? (r : NameRun) (name : Text) : Option Nat := do
  let ending ← name.after? (text r.stem)
  let i ← (r.ends.flatMap fun s => (text s).split '|').idxOf? ending
  return r.first + i

/-- From U+0000 to U+07FF. -/
def from0000 : List NameRun := [
  ⟨0x20, "", [
    "SPACE|EXCLAMATION MARK|QUOTATION MARK|NUMBER SIGN|DOLLAR SIGN|PERCENT SIGN|AMPERSAND|APOSTROPHE",
    "LEFT PARENTHESIS|RIGHT PARENTHESIS|ASTERISK|PLUS SIGN|COMMA|HYPHEN-MINUS|FULL STOP|SOLIDUS"]⟩,
  ⟨0x30, "DIGIT ", ["ZERO|ONE|TWO|THREE|FOUR|FIVE|SIX|SEVEN|EIGHT|NINE"]⟩,
  ⟨0x3A, "", ["COLON|SEMICOLON|LESS-THAN SIGN|EQUALS SIGN|GREATER-THAN SIGN|QUESTION MARK|COMMERCIAL AT"]⟩,
  ⟨0x41, "LATIN CAPITAL LETTER ", ["A|B|C|D|E|F|G|H|I|J|K|L|M|N|O|P|Q|R|S|T|U|V|W|X|Y|Z"]⟩,
  ⟨0x5B, "", ["LEFT SQUARE BRACKET|REVERSE SOLIDUS|RIGHT SQUARE BRACKET|CIRCUMFLEX ACCENT|LOW LINE|GRAVE ACCENT"]⟩,
  ⟨0x61, "LATIN SMALL LETTER ", ["A|B|C|D|E|F|G|H|I|J|K|L|M|N|O|P|Q|R|S|T|U|V|W|X|Y|Z"]⟩,
  ⟨0x7B, "", ["LEFT CURLY BRACKET|VERTICAL LINE|RIGHT CURLY BRACKET|TILDE"]⟩,
  ⟨0xA0, "", [
    "NO-BREAK SPACE|INVERTED EXCLAMATION MARK|CENT SIGN|POUND SIGN|CURRENCY SIGN|YEN SIGN|BROKEN BAR|SECTION SIGN",
    "DIAERESIS|COPYRIGHT SIGN|FEMININE ORDINAL INDICATOR|LEFT-POINTING DOUBLE ANGLE QUOTATION MARK|NOT SIGN",
    "SOFT HYPHEN|REGISTERED SIGN|MACRON|DEGREE SIGN|PLUS-MINUS SIGN|SUPERSCRIPT TWO|SUPERSCRIPT THREE|ACUTE ACCENT",
    "MICRO SIGN|PILCROW SIGN|MIDDLE DOT|CEDILLA|SUPERSCRIPT ONE|MASCULINE ORDINAL INDICATOR",
    "RIGHT-POINTING DOUBLE ANGLE QUOTATION MARK"]⟩,
  ⟨0xBC, "VULGAR FRACTION ", ["ONE QUARTER|ONE HALF|THREE QUARTERS"]⟩,
  ⟨0xBF, "INVERTED QUESTION MARK", [""]⟩,
  ⟨0xC0, "LATIN CAPITAL LETTER ", [
    "A WITH GRAVE|A WITH ACUTE|A WITH CIRCUMFLEX|A WITH TILDE|A WITH DIAERESIS|A WITH RING ABOVE|AE|C WITH CEDILLA",
    "E WITH GRAVE|E WITH ACUTE|E WITH CIRCUMFLEX|E WITH DIAERESIS|I WITH GRAVE|I WITH ACUTE|I WITH CIRCUMFLEX",
    "I WITH DIAERESIS|ETH|N WITH TILDE|O WITH GRAVE|O WITH ACUTE|O WITH CIRCUMFLEX|O WITH TILDE|O WITH DIAERESIS"]⟩,
  ⟨0xD7, "MULTIPLICATION SIGN", [""]⟩,
  ⟨0xD8, "LATIN CAPITAL LETTER ", [
    "O WITH STROKE|U WITH GRAVE|U WITH ACUTE|U WITH CIRCUMFLEX|U WITH DIAERESIS|Y WITH ACUTE|THORN"]⟩,
  ⟨0xDF, "LATIN SMALL LETTER ", [
    "SHARP S|A WITH GRAVE|A WITH ACUTE|A WITH CIRCUMFLEX|A WITH TILDE|A WITH DIAERESIS|A WITH RING ABOVE|AE",
    "C WITH CEDILLA|E WITH GRAVE|E WITH ACUTE|E WITH CIRCUMFLEX|E WITH DIAERESIS|I WITH GRAVE|I WITH ACUTE",
    "I WITH CIRCUMFLEX|I WITH DIAERESIS|ETH|N WITH TILDE|O WITH GRAVE|O WITH ACUTE|O WITH CIRCUMFLEX|O WITH TILDE",
    "O WITH DIAERESIS"]⟩,
  ⟨0xF7, "DIVISION SIGN", [""]⟩,
  ⟨0xF8, "LATIN SMALL LETTER ", [
    "O WITH STROKE|U WITH GRAVE|U WITH ACUTE|U WITH CIRCUMFLEX|U WITH DIAERESIS|Y WITH ACUTE|THORN|Y WITH DIAERESIS"]⟩,
  ⟨0x100, "LATIN ", [
    "CAPITAL LETTER A WITH MACRON|SMALL LETTER A WITH MACRON|CAPITAL LETTER A WITH BREVE|SMALL LETTER A WITH BREVE",
    "CAPITAL LETTER A WITH OGONEK|SMALL LETTER A WITH OGONEK|CAPITAL LETTER C WITH ACUTE|SMALL LETTER C WITH ACUTE",
    "CAPITAL LETTER C WITH CIRCUMFLEX|SMALL LETTER C WITH CIRCUMFLEX|CAPITAL LETTER C WITH DOT ABOVE",
    "SMALL LETTER C WITH DOT ABOVE|CAPITAL LETTER C WITH CARON|SMALL LETTER C WITH CARON",
    "CAPITAL LETTER D WITH CARON|SMALL LETTER D WITH CARON|CAPITAL LETTER D WITH STROKE|SMALL LETTER D WITH STROKE",
    "CAPITAL LETTER E WITH MACRON|SMALL LETTER E WITH MACRON|CAPITAL LETTER E WITH BREVE|SMALL LETTER E WITH BREVE",
    "CAPITAL LETTER E WITH DOT ABOVE|SMALL LETTER E WITH DOT ABOVE|CAPITAL LETTER E WITH OGONEK",
    "SMALL LETTER E WITH OGONEK|CAPITAL LETTER E WITH CARON|SMALL LETTER E WITH CARON",
    "CAPITAL LETTER G WITH CIRCUMFLEX|SMALL LETTER G WITH CIRCUMFLEX|CAPITAL LETTER G WITH BREVE",
    "SMALL LETTER G WITH BREVE|CAPITAL LETTER G WITH DOT ABOVE|SMALL LETTER G WITH DOT ABOVE",
    "CAPITAL LETTER G WITH CEDILLA|SMALL LETTER G WITH CEDILLA|CAPITAL LETTER H WITH CIRCUMFLEX",
    "SMALL LETTER H WITH CIRCUMFLEX|CAPITAL LETTER H WITH STROKE|SMALL LETTER H WITH STROKE",
    "CAPITAL LETTER I WITH TILDE|SMALL LETTER I WITH TILDE|CAPITAL LETTER I WITH MACRON|SMALL LETTER I WITH MACRON",
    "CAPITAL LETTER I WITH BREVE|SMALL LETTER I WITH BREVE|CAPITAL LETTER I WITH OGONEK|SMALL LETTER I WITH OGONEK",
    "CAPITAL LETTER I WITH DOT ABOVE|SMALL LETTER DOTLESS I|CAPITAL LIGATURE IJ|SMALL LIGATURE IJ",
    "CAPITAL LETTER J WITH CIRCUMFLEX|SMALL LETTER J WITH CIRCUMFLEX|CAPITAL LETTER K WITH CEDILLA",
    "SMALL LETTER K WITH CEDILLA|SMALL LETTER KRA|CAPITAL LETTER L WITH ACUTE|SMALL LETTER L WITH ACUTE",
    "CAPITAL LETTER L WITH CEDILLA|SMALL LETTER L WITH CEDILLA|CAPITAL LETTER L WITH CARON",
    "SMALL LETTER L WITH CARON|CAPITAL LETTER L WITH MIDDLE DOT|SMALL LETTER L WITH MIDDLE DOT",
    "CAPITAL LETTER L WITH STROKE|SMALL LETTER L WITH STROKE|CAPITAL LETTER N WITH ACUTE|SMALL LETTER N WITH ACUTE",
    "CAPITAL LETTER N WITH CEDILLA|SMALL LETTER N WITH CEDILLA|CAPITAL LETTER N WITH CARON",
    "SMALL LETTER N WITH CARON|SMALL LETTER N PRECEDED BY APOSTROPHE|CAPITAL LETTER ENG|SMALL LETTER ENG",
    "CAPITAL LETTER O WITH MACRON|SMALL LETTER O WITH MACRON|CAPITAL LETTER O WITH BREVE|SMALL LETTER O WITH BREVE",
    "CAPITAL LETTER O WITH DOUBLE ACUTE|SMALL LETTER O WITH DOUBLE ACUTE|CAPITAL LIGATURE OE|SMALL LIGATURE OE",
    "CAPITAL LETTER R WITH ACUTE|SMALL LETTER R WITH ACUTE|CAPITAL LETTER R WITH CEDILLA",
    "SMALL LETTER R WITH CEDILLA|CAPITAL LETTER R WITH CARON|SMALL LETTER R WITH CARON|CAPITAL LETTER S WITH ACUTE",
    "SMALL LETTER S WITH ACUTE|CAPITAL LETTER S WITH CIRCUMFLEX|SMALL LETTER S WITH CIRCUMFLEX",
    "CAPITAL LETTER S WITH CEDILLA|SMALL LETTER S WITH CEDILLA|CAPITAL LETTER S WITH CARON",
    "SMALL LETTER S WITH CARON|CAPITAL LETTER T WITH CEDILLA|SMALL LETTER T WITH CEDILLA",
    "CAPITAL LETTER T WITH CARON|SMALL LETTER T WITH CARON|CAPITAL LETTER T WITH STROKE|SMALL LETTER T WITH STROKE",
    "CAPITAL LETTER U WITH TILDE|SMALL LETTER U WITH TILDE|CAPITAL LETTER U WITH MACRON|SMALL LETTER U WITH MACRON",
    "CAPITAL LETTER U WITH BREVE|SMALL LETTER U WITH BREVE|CAPITAL LETTER U WITH RING ABOVE",
    "SMALL LETTER U WITH RING ABOVE|CAPITAL LETTER U WITH DOUBLE ACUTE|SMALL LETTER U WITH DOUBLE ACUTE",
    "CAPITAL LETTER U WITH OGONEK|SMALL LETTER U WITH OGONEK|CAPITAL LETTER W WITH CIRCUMFLEX",
    "SMALL LETTER W WITH CIRCUMFLEX|CAPITAL LETTER Y WITH CIRCUMFLEX|SMALL LETTER Y WITH CIRCUMFLEX",
    "CAPITAL LETTER Y WITH DIAERESIS|CAPITAL LETTER Z WITH ACUTE|SMALL LETTER Z WITH ACUTE",
    "CAPITAL LETTER Z WITH DOT ABOVE|SMALL LETTER Z WITH DOT ABOVE|CAPITAL LETTER Z WITH CARON",
    "SMALL LETTER Z WITH CARON|SMALL LETTER LONG S|SMALL LETTER B WITH STROKE|CAPITAL LETTER B WITH HOOK",
    "CAPITAL LETTER B WITH TOPBAR|SMALL LETTER B WITH TOPBAR|CAPITAL LETTER TONE SIX|SMALL LETTER TONE SIX",
    "CAPITAL LETTER OPEN O|CAPITAL LETTER C WITH HOOK|SMALL LETTER C WITH HOOK|CAPITAL LETTER AFRICAN D",
    "CAPITAL LETTER D WITH HOOK|CAPITAL LETTER D WITH TOPBAR|SMALL LETTER D WITH TOPBAR|SMALL LETTER TURNED DELTA"]⟩,
  ⟨0x18E, "LATIN CAPITAL LETTER ", ["REVERSED E|SCHWA|OPEN E|F WITH HOOK"]⟩,
  ⟨0x192, "LATIN ", [
    "SMALL LETTER F WITH HOOK|CAPITAL LETTER G WITH HOOK|CAPITAL LETTER GAMMA|SMALL LETTER HV|CAPITAL LETTER IOTA",
    "CAPITAL LETTER I WITH STROKE|CAPITAL LETTER K WITH HOOK|SMALL LETTER K WITH HOOK|SMALL LETTER L WITH BAR",
    "SMALL LETTER LAMBDA WITH STROKE|CAPITAL LETTER TURNED M|CAPITAL LETTER N WITH LEFT HOOK",
    "SMALL LETTER N WITH LONG RIGHT LEG|CAPITAL LETTER O WITH MIDDLE TILDE|CAPITAL LETTER O WITH HORN",
    "SMALL LETTER O WITH HORN|CAPITAL LETTER OI|SMALL LETTER OI|CAPITAL LETTER P WITH HOOK|SMALL LETTER P WITH HOOK",
    "LETTER YR|CAPITAL LETTER TONE TWO|SMALL LETTER TONE TWO|CAPITAL LETTER ESH|LETTER REVERSED ESH LOOP",
    "SMALL LETTER T WITH PALATAL HOOK|CAPITAL LETTER T WITH HOOK|SMALL LETTER T WITH HOOK",
    "CAPITAL LETTER T WITH RETROFLEX HOOK|CAPITAL LETTER U WITH HORN|SMALL LETTER U WITH HORN",
    "CAPITAL LETTER UPSILON|CAPITAL LETTER V WITH HOOK|CAPITAL LETTER Y WITH HOOK|SMALL LETTER Y WITH HOOK",
    "CAPITAL LETTER Z WITH STROKE|SMALL LETTER Z WITH STROKE|CAPITAL LETTER EZH|CAPITAL LETTER EZH REVERSED",
    "SMALL LETTER EZH REVERSED|SMALL LETTER EZH WITH TAIL|LETTER TWO WITH STROKE|CAPITAL LETTER TONE FIVE",
    "SMALL LETTER TONE FIVE|LETTER INVERTED GLOTTAL STOP WITH STROKE|LETTER WYNN|LETTER DENTAL CLICK",
    "LETTER LATERAL CLICK|LETTER ALVEOLAR CLICK|LETTER RETROFLEX CLICK|CAPITAL LETTER DZ WITH CARON",
    "CAPITAL LETTER D WITH SMALL LETTER Z WITH CARON|SMALL LETTER DZ WITH CARON|CAPITAL LETTER LJ",
    "CAPITAL LETTER L WITH SMALL LETTER J|SMALL LETTER LJ|CAPITAL LETTER NJ|CAPITAL LETTER N WITH SMALL LETTER J",
    "SMALL LETTER NJ|CAPITAL LETTER A WITH CARON|SMALL LETTER A WITH CARON|CAPITAL LETTER I WITH CARON",
    "SMALL LETTER I WITH CARON|CAPITAL LETTER O WITH CARON|SMALL LETTER O WITH CARON|CAPITAL LETTER U WITH CARON",
    "SMALL LETTER U WITH CARON|CAPITAL LETTER U WITH DIAERESIS AND MACRON|SMALL LETTER U WITH DIAERESIS AND MACRON",
    "CAPITAL LETTER U WITH DIAERESIS AND ACUTE|SMALL LETTER U WITH DIAERESIS AND ACUTE",
    "CAPITAL LETTER U WITH DIAERESIS AND CARON|SMALL LETTER U WITH DIAERESIS AND CARON",
    "CAPITAL LETTER U WITH DIAERESIS AND GRAVE|SMALL LETTER U WITH DIAERESIS AND GRAVE|SMALL LETTER TURNED E",
    "CAPITAL LETTER A WITH DIAERESIS AND MACRON|SMALL LETTER A WITH DIAERESIS AND MACRON",
    "CAPITAL LETTER A WITH DOT ABOVE AND MACRON|SMALL LETTER A WITH DOT ABOVE AND MACRON",
    "CAPITAL LETTER AE WITH MACRON|SMALL LETTER AE WITH MACRON|CAPITAL LETTER G WITH STROKE",
    "SMALL LETTER G WITH STROKE|CAPITAL LETTER G WITH CARON|SMALL LETTER G WITH CARON|CAPITAL LETTER K WITH CARON",
    "SMALL LETTER K WITH CARON|CAPITAL LETTER O WITH OGONEK|SMALL LETTER O WITH OGONEK",
    "CAPITAL LETTER O WITH OGONEK AND MACRON|SMALL LETTER O WITH OGONEK AND MACRON|CAPITAL LETTER EZH WITH CARON",
    "SMALL LETTER EZH WITH CARON|SMALL LETTER J WITH CARON|CAPITAL LETTER DZ|CAPITAL LETTER D WITH SMALL LETTER Z",
    "SMALL LETTER DZ|CAPITAL LETTER G WITH ACUTE|SMALL LETTER G WITH ACUTE|CAPITAL LETTER HWAIR|CAPITAL LETTER WYNN",
    "CAPITAL LETTER N WITH GRAVE|SMALL LETTER N WITH GRAVE|CAPITAL LETTER A WITH RING ABOVE AND ACUTE",
    "SMALL LETTER A WITH RING ABOVE AND ACUTE|CAPITAL LETTER AE WITH ACUTE|SMALL LETTER AE WITH ACUTE",
    "CAPITAL LETTER O WITH STROKE AND ACUTE|SMALL LETTER O WITH STROKE AND ACUTE|CAPITAL LETTER A WITH DOUBLE GRAVE",
    "SMALL LETTER A WITH DOUBLE GRAVE|CAPITAL LETTER A WITH INVERTED BREVE|SMALL LETTER A WITH INVERTED BREVE",
    "CAPITAL LETTER E WITH DOUBLE GRAVE|SMALL LETTER E WITH DOUBLE GRAVE|CAPITAL LETTER E WITH INVERTED BREVE",
    "SMALL LETTER E WITH INVERTED BREVE|CAPITAL LETTER I WITH DOUBLE GRAVE|SMALL LETTER I WITH DOUBLE GRAVE",
    "CAPITAL LETTER I WITH INVERTED BREVE|SMALL LETTER I WITH INVERTED BREVE|CAPITAL LETTER O WITH DOUBLE GRAVE",
    "SMALL LETTER O WITH DOUBLE GRAVE|CAPITAL LETTER O WITH INVERTED BREVE|SMALL LETTER O WITH INVERTED BREVE",
    "CAPITAL LETTER R WITH DOUBLE GRAVE|SMALL LETTER R WITH DOUBLE GRAVE|CAPITAL LETTER R WITH INVERTED BREVE",
    "SMALL LETTER R WITH INVERTED BREVE|CAPITAL LETTER U WITH DOUBLE GRAVE|SMALL LETTER U WITH DOUBLE GRAVE",
    "CAPITAL LETTER U WITH INVERTED BREVE|SMALL LETTER U WITH INVERTED BREVE|CAPITAL LETTER S WITH COMMA BELOW",
    "SMALL LETTER S WITH COMMA BELOW|CAPITAL LETTER T WITH COMMA BELOW|SMALL LETTER T WITH COMMA BELOW",
    "CAPITAL LETTER YOGH|SMALL LETTER YOGH|CAPITAL LETTER H WITH CARON|SMALL LETTER H WITH CARON",
    "CAPITAL LETTER N WITH LONG RIGHT LEG|SMALL LETTER D WITH CURL|CAPITAL LETTER OU|SMALL LETTER OU",
    "CAPITAL LETTER Z WITH HOOK|SMALL LETTER Z WITH HOOK|CAPITAL LETTER A WITH DOT ABOVE",
    "SMALL LETTER A WITH DOT ABOVE|CAPITAL LETTER E WITH CEDILLA|SMALL LETTER E WITH CEDILLA",
    "CAPITAL LETTER O WITH DIAERESIS AND MACRON|SMALL LETTER O WITH DIAERESIS AND MACRON",
    "CAPITAL LETTER O WITH TILDE AND MACRON|SMALL LETTER O WITH TILDE AND MACRON|CAPITAL LETTER O WITH DOT ABOVE",
    "SMALL LETTER O WITH DOT ABOVE|CAPITAL LETTER O WITH DOT ABOVE AND MACRON",
    "SMALL LETTER O WITH DOT ABOVE AND MACRON|CAPITAL LETTER Y WITH MACRON"]⟩,
  ⟨0x233, "LATIN SMALL LETTER ", [
    "Y WITH MACRON|L WITH CURL|N WITH CURL|T WITH CURL|DOTLESS J|DB DIGRAPH|QP DIGRAPH"]⟩,
  ⟨0x23A, "LATIN ", [
    "CAPITAL LETTER A WITH STROKE|CAPITAL LETTER C WITH STROKE|SMALL LETTER C WITH STROKE|CAPITAL LETTER L WITH BAR",
    "CAPITAL LETTER T WITH DIAGONAL STROKE|SMALL LETTER S WITH SWASH TAIL|SMALL LETTER Z WITH SWASH TAIL",
    "CAPITAL LETTER GLOTTAL STOP|SMALL LETTER GLOTTAL STOP"]⟩,
  ⟨0x243, "LATIN CAPITAL LETTER ", ["B WITH STROKE|U BAR|TURNED V|E WITH STROKE"]⟩,
  ⟨0x247, "LATIN ", [
    "SMALL LETTER E WITH STROKE|CAPITAL LETTER J WITH STROKE|SMALL LETTER J WITH STROKE",
    "CAPITAL LETTER SMALL Q WITH HOOK TAIL|SMALL LETTER Q WITH HOOK TAIL|CAPITAL LETTER R WITH STROKE",
    "SMALL LETTER R WITH STROKE|CAPITAL LETTER Y WITH STROKE"]⟩,
  ⟨0x24F, "LATIN SMALL LETTER ", [
    "Y WITH STROKE|TURNED A|ALPHA|TURNED ALPHA|B WITH HOOK|OPEN O|C WITH CURL|D WITH TAIL|D WITH HOOK|REVERSED E",
    "SCHWA|SCHWA WITH HOOK|OPEN E|REVERSED OPEN E|REVERSED OPEN E WITH HOOK|CLOSED REVERSED OPEN E",
    "DOTLESS J WITH STROKE|G WITH HOOK|SCRIPT G"]⟩,
  ⟨0x262, "LATIN LETTER SMALL CAPITAL G", [""]⟩,
  ⟨0x263, "LATIN SMALL LETTER ", ["GAMMA|RAMS HORN|TURNED H|H WITH HOOK|HENG WITH HOOK|I WITH STROKE|IOTA"]⟩,
  ⟨0x26A, "LATIN LETTER SMALL CAPITAL I", [""]⟩,
  ⟨0x26B, "LATIN SMALL LETTER ", [
    "L WITH MIDDLE TILDE|L WITH BELT|L WITH RETROFLEX HOOK|LEZH|TURNED M|TURNED M WITH LONG LEG|M WITH HOOK",
    "N WITH LEFT HOOK|N WITH RETROFLEX HOOK"]⟩,
  ⟨0x274, "LATIN ", ["LETTER SMALL CAPITAL N|SMALL LETTER BARRED O|LETTER SMALL CAPITAL OE"]⟩,
  ⟨0x277, "LATIN SMALL LETTER ", [
    "CLOSED OMEGA|PHI|TURNED R|TURNED R WITH LONG LEG|TURNED R WITH HOOK|R WITH LONG LEG|R WITH TAIL",
    "R WITH FISHHOOK|REVERSED R WITH FISHHOOK"]⟩,
  ⟨0x280, "LATIN LETTER SMALL CAPITAL ", ["R|INVERTED R"]⟩,
  ⟨0x282, "LATIN SMALL LETTER ", [
    "S WITH HOOK|ESH|DOTLESS J WITH STROKE AND HOOK|SQUAT REVERSED ESH|ESH WITH CURL|TURNED T|T WITH RETROFLEX HOOK",
    "U BAR|UPSILON|V WITH HOOK|TURNED V|TURNED W|TURNED Y"]⟩,
  ⟨0x28F, "LATIN LETTER SMALL CAPITAL Y", [""]⟩,
  ⟨0x290, "LATIN SMALL LETTER ", ["Z WITH RETROFLEX HOOK|Z WITH CURL|EZH|EZH WITH CURL"]⟩,
  ⟨0x294, "LATIN LETTER ", [
    "GLOTTAL STOP|PHARYNGEAL VOICED FRICATIVE|INVERTED GLOTTAL STOP|STRETCHED C|BILABIAL CLICK|SMALL CAPITAL B"]⟩,
  ⟨0x29A, "LATIN ", [
    "SMALL LETTER CLOSED OPEN E|LETTER SMALL CAPITAL G WITH HOOK|LETTER SMALL CAPITAL H",
    "SMALL LETTER J WITH CROSSED-TAIL|SMALL LETTER TURNED K|LETTER SMALL CAPITAL L|SMALL LETTER Q WITH HOOK",
    "LETTER GLOTTAL STOP WITH STROKE|LETTER REVERSED GLOTTAL STOP WITH STROKE"]⟩,
  ⟨0x2A3, "LATIN SMALL LETTER ", [
    "DZ DIGRAPH|DEZH DIGRAPH|DZ DIGRAPH WITH CURL|TS DIGRAPH|TESH DIGRAPH|TC DIGRAPH WITH CURL|FENG DIGRAPH",
    "LS DIGRAPH|LZ DIGRAPH"]⟩,
  ⟨0x2AC, "LATIN LETTER ", ["BILABIAL PERCUSSIVE|BIDENTAL PERCUSSIVE"]⟩,
  ⟨0x2AE, "LATIN SMALL LETTER TURNED H WITH ", ["FISHHOOK|FISHHOOK AND TAIL"]⟩,
  ⟨0x2B0, "MODIFIER LETTER SMALL ", ["H|H WITH HOOK|J|R|TURNED R|TURNED R WITH HOOK|CAPITAL INVERTED R|W|Y"]⟩,
  ⟨0x2B9, "MODIFIER LETTER ", [
    "PRIME|DOUBLE PRIME|TURNED COMMA|APOSTROPHE|REVERSED COMMA|RIGHT HALF RING|LEFT HALF RING|GLOTTAL STOP",
    "REVERSED GLOTTAL STOP|LEFT ARROWHEAD|RIGHT ARROWHEAD|UP ARROWHEAD|DOWN ARROWHEAD|CIRCUMFLEX ACCENT"]⟩,
  ⟨0x2C7, "CARON", [""]⟩,
  ⟨0x2C8, "MODIFIER LETTER ", [
    "VERTICAL LINE|MACRON|ACUTE ACCENT|GRAVE ACCENT|LOW VERTICAL LINE|LOW MACRON|LOW GRAVE ACCENT|LOW ACUTE ACCENT",
    "TRIANGULAR COLON|HALF TRIANGULAR COLON|CENTRED RIGHT HALF RING|CENTRED LEFT HALF RING|UP TACK|DOWN TACK",
    "PLUS SIGN|MINUS SIGN"]⟩,
  ⟨0x2D8, "", ["BREVE|DOT ABOVE|RING ABOVE|OGONEK|SMALL TILDE|DOUBLE ACUTE ACCENT"]⟩,
  ⟨0x2DE, "MODIFIER LETTER ", [
    "RHOTIC HOOK|CROSS ACCENT|SMALL GAMMA|SMALL L|SMALL S|SMALL X|SMALL REVERSED GLOTTAL STOP|EXTRA-HIGH TONE BAR",
    "HIGH TONE BAR|MID TONE BAR|LOW TONE BAR|EXTRA-LOW TONE BAR|YIN DEPARTING TONE MARK|YANG DEPARTING TONE MARK",
    "VOICING|UNASPIRATED|DOUBLE APOSTROPHE|LOW DOWN ARROWHEAD|LOW UP ARROWHEAD|LOW LEFT ARROWHEAD",
    "LOW RIGHT ARROWHEAD|LOW RING|MIDDLE GRAVE ACCENT|MIDDLE DOUBLE GRAVE ACCENT|MIDDLE DOUBLE ACUTE ACCENT",
    "LOW TILDE|RAISED COLON|BEGIN HIGH TONE|END HIGH TONE|BEGIN LOW TONE|END LOW TONE|SHELF|OPEN SHELF",
    "LOW LEFT ARROW"]⟩,
  ⟨0x300, "COMBINING ", [
    "GRAVE ACCENT|ACUTE ACCENT|CIRCUMFLEX ACCENT|TILDE|MACRON|OVERLINE|BREVE|DOT ABOVE|DIAERESIS|HOOK ABOVE",
    "RING ABOVE|DOUBLE ACUTE ACCENT|CARON|VERTICAL LINE ABOVE|DOUBLE VERTICAL LINE ABOVE|DOUBLE GRAVE ACCENT",
    "CANDRABINDU|INVERTED BREVE|TURNED COMMA ABOVE|COMMA ABOVE|REVERSED COMMA ABOVE|COMMA ABOVE RIGHT",
    "GRAVE ACCENT BELOW|ACUTE ACCENT BELOW|LEFT TACK BELOW|RIGHT TACK BELOW|LEFT ANGLE ABOVE|HORN",
    "LEFT HALF RING BELOW|UP TACK BELOW|DOWN TACK BELOW|PLUS SIGN BELOW|MINUS SIGN BELOW|PALATALIZED HOOK BELOW",
    "RETROFLEX HOOK BELOW|DOT BELOW|DIAERESIS BELOW|RING BELOW|COMMA BELOW|CEDILLA|OGONEK|VERTICAL LINE BELOW",
    "BRIDGE BELOW|INVERTED DOUBLE ARCH BELOW|CARON BELOW|CIRCUMFLEX ACCENT BELOW|BREVE BELOW|INVERTED BREVE BELOW",
    "TILDE BELOW|MACRON BELOW|LOW LINE|DOUBLE LOW LINE|TILDE OVERLAY|SHORT STROKE OVERLAY|LONG STROKE OVERLAY",
    "SHORT SOLIDUS OVERLAY|LONG SOLIDUS OVERLAY|RIGHT HALF RING BELOW|INVERTED BRIDGE BELOW|SQUARE BELOW",
    "SEAGULL BELOW|X ABOVE|VERTICAL TILDE|DOUBLE OVERLINE|GRAVE TONE MARK|ACUTE TONE MARK|GREEK PERISPOMENI",
    "GREEK KORONIS|GREEK DIALYTIKA TONOS|GREEK YPOGEGRAMMENI|BRIDGE ABOVE|EQUALS SIGN BELOW",
    "DOUBLE VERTICAL LINE BELOW|LEFT ANGLE BELOW|NOT TILDE ABOVE|HOMOTHETIC ABOVE|ALMOST EQUAL TO ABOVE",
    "LEFT RIGHT ARROW BELOW|UPWARDS ARROW BELOW|GRAPHEME JOINER|RIGHT ARROWHEAD ABOVE|LEFT HALF RING ABOVE|FERMATA",
    "X BELOW|LEFT ARROWHEAD BELOW|RIGHT ARROWHEAD BELOW|RIGHT ARROWHEAD AND UP ARROWHEAD BELOW",
    "RIGHT HALF RING ABOVE|DOT ABOVE RIGHT|ASTERISK BELOW|DOUBLE RING BELOW|ZIGZAG ABOVE"]⟩,
  ⟨0x35C, "COMBINING DOUBLE ", ["BREVE BELOW|BREVE|MACRON|MACRON BELOW|TILDE|INVERTED BREVE|RIGHTWARDS ARROW BELOW"]⟩,
  ⟨0x363, "COMBINING LATIN SMALL LETTER ", ["A|E|I|O|U|C|D|H|M|R|T|V|X"]⟩,
  ⟨0x370, "GREEK ", [
    "CAPITAL LETTER HETA|SMALL LETTER HETA|CAPITAL LETTER ARCHAIC SAMPI|SMALL LETTER ARCHAIC SAMPI|NUMERAL SIGN",
    "LOWER NUMERAL SIGN|CAPITAL LETTER PAMPHYLIAN DIGAMMA|SMALL LETTER PAMPHYLIAN DIGAMMA"]⟩,
  ⟨0x37A, "GREEK ", [
    "YPOGEGRAMMENI|SMALL REVERSED LUNATE SIGMA SYMBOL|SMALL DOTTED LUNATE SIGMA SYMBOL",
    "SMALL REVERSED DOTTED LUNATE SIGMA SYMBOL|QUESTION MARK|CAPITAL LETTER YOT"]⟩,
  ⟨0x384, "GREEK ", ["TONOS|DIALYTIKA TONOS|CAPITAL LETTER ALPHA WITH TONOS|ANO TELEIA"]⟩,
  ⟨0x388, "GREEK CAPITAL LETTER ", ["EPSILON WITH TONOS|ETA WITH TONOS|IOTA WITH TONOS"]⟩,
  ⟨0x38C, "GREEK CAPITAL LETTER OMICRON WITH TONOS", [""]⟩,
  ⟨0x38E, "GREEK ", [
    "CAPITAL LETTER UPSILON WITH TONOS|CAPITAL LETTER OMEGA WITH TONOS|SMALL LETTER IOTA WITH DIALYTIKA AND TONOS"]⟩,
  ⟨0x391, "GREEK CAPITAL LETTER ", [
    "ALPHA|BETA|GAMMA|DELTA|EPSILON|ZETA|ETA|THETA|IOTA|KAPPA|LAMDA|MU|NU|XI|OMICRON|PI|RHO"]⟩,
  ⟨0x3A3, "GREEK CAPITAL LETTER ", [
    "SIGMA|TAU|UPSILON|PHI|CHI|PSI|OMEGA|IOTA WITH DIALYTIKA|UPSILON WITH DIALYTIKA"]⟩,
  ⟨0x3AC, "GREEK SMALL LETTER ", [
    "ALPHA WITH TONOS|EPSILON WITH TONOS|ETA WITH TONOS|IOTA WITH TONOS|UPSILON WITH DIALYTIKA AND TONOS|ALPHA|BETA",
    "GAMMA|DELTA|EPSILON|ZETA|ETA|THETA|IOTA|KAPPA|LAMDA|MU|NU|XI|OMICRON|PI|RHO|FINAL SIGMA|SIGMA|TAU|UPSILON|PHI",
    "CHI|PSI|OMEGA|IOTA WITH DIALYTIKA|UPSILON WITH DIALYTIKA|OMICRON WITH TONOS|UPSILON WITH TONOS",
    "OMEGA WITH TONOS"]⟩,
  ⟨0x3CF, "GREEK ", [
    "CAPITAL KAI SYMBOL|BETA SYMBOL|THETA SYMBOL|UPSILON WITH HOOK SYMBOL|UPSILON WITH ACUTE AND HOOK SYMBOL",
    "UPSILON WITH DIAERESIS AND HOOK SYMBOL|PHI SYMBOL|PI SYMBOL|KAI SYMBOL|LETTER ARCHAIC KOPPA",
    "SMALL LETTER ARCHAIC KOPPA|LETTER STIGMA|SMALL LETTER STIGMA|LETTER DIGAMMA|SMALL LETTER DIGAMMA|LETTER KOPPA",
    "SMALL LETTER KOPPA|LETTER SAMPI|SMALL LETTER SAMPI"]⟩,
  ⟨0x3E2, "COPTIC ", [
    "CAPITAL LETTER SHEI|SMALL LETTER SHEI|CAPITAL LETTER FEI|SMALL LETTER FEI|CAPITAL LETTER KHEI",
    "SMALL LETTER KHEI|CAPITAL LETTER HORI|SMALL LETTER HORI|CAPITAL LETTER GANGIA|SMALL LETTER GANGIA",
    "CAPITAL LETTER SHIMA|SMALL LETTER SHIMA|CAPITAL LETTER DEI|SMALL LETTER DEI"]⟩,
  ⟨0x3F0, "GREEK ", [
    "KAPPA SYMBOL|RHO SYMBOL|LUNATE SIGMA SYMBOL|LETTER YOT|CAPITAL THETA SYMBOL|LUNATE EPSILON SYMBOL",
    "REVERSED LUNATE EPSILON SYMBOL|CAPITAL LETTER SHO|SMALL LETTER SHO|CAPITAL LUNATE SIGMA SYMBOL",
    "CAPITAL LETTER SAN|SMALL LETTER SAN|RHO WITH STROKE SYMBOL|CAPITAL REVERSED LUNATE SIGMA SYMBOL",
    "CAPITAL DOTTED LUNATE SIGMA SYMBOL|CAPITAL REVERSED DOTTED LUNATE SIGMA SYMBOL"]⟩,
  ⟨0x400, "CYRILLIC CAPITAL LETTER ", [
    "IE WITH GRAVE|IO|DJE|GJE|UKRAINIAN IE|DZE|BYELORUSSIAN-UKRAINIAN I|YI|JE|LJE|NJE|TSHE|KJE|I WITH GRAVE|SHORT U",
    "DZHE|A|BE|VE|GHE|DE|IE|ZHE|ZE|I|SHORT I|KA|EL|EM|EN|O|PE|ER|ES|TE|U|EF|HA|TSE|CHE|SHA|SHCHA|HARD SIGN|YERU",
    "SOFT SIGN|E|YU|YA"]⟩,
  ⟨0x430, "CYRILLIC SMALL LETTER ", [
    "A|BE|VE|GHE|DE|IE|ZHE|ZE|I|SHORT I|KA|EL|EM|EN|O|PE|ER|ES|TE|U|EF|HA|TSE|CHE|SHA|SHCHA|HARD SIGN|YERU",
    "SOFT SIGN|E|YU|YA|IE WITH GRAVE|IO|DJE|GJE|UKRAINIAN IE|DZE|BYELORUSSIAN-UKRAINIAN I|YI|JE|LJE|NJE|TSHE|KJE",
    "I WITH GRAVE|SHORT U|DZHE"]⟩,
  ⟨0x460, "CYRILLIC ", [
    "CAPITAL LETTER OMEGA|SMALL LETTER OMEGA|CAPITAL LETTER YAT|SMALL LETTER YAT|CAPITAL LETTER IOTIFIED E",
    "SMALL LETTER IOTIFIED E|CAPITAL LETTER LITTLE YUS|SMALL LETTER LITTLE YUS|CAPITAL LETTER IOTIFIED LITTLE YUS",
    "SMALL LETTER IOTIFIED LITTLE YUS|CAPITAL LETTER BIG YUS|SMALL LETTER BIG YUS|CAPITAL LETTER IOTIFIED BIG YUS",
    "SMALL LETTER IOTIFIED BIG YUS|CAPITAL LETTER KSI|SMALL LETTER KSI|CAPITAL LETTER PSI|SMALL LETTER PSI",
    "CAPITAL LETTER FITA|SMALL LETTER FITA|CAPITAL LETTER IZHITSA|SMALL LETTER IZHITSA",
    "CAPITAL LETTER IZHITSA WITH DOUBLE GRAVE ACCENT|SMALL LETTER IZHITSA WITH DOUBLE GRAVE ACCENT",
    "CAPITAL LETTER UK|SMALL LETTER UK|CAPITAL LETTER ROUND OMEGA|SMALL LETTER ROUND OMEGA",
    "CAPITAL LETTER OMEGA WITH TITLO|SMALL LETTER OMEGA WITH TITLO|CAPITAL LETTER OT|SMALL LETTER OT",
    "CAPITAL LETTER KOPPA|SMALL LETTER KOPPA|THOUSANDS SIGN"]⟩,
  ⟨0x483, "COMBINING CYRILLIC ", [
    "TITLO|PALATALIZATION|DASIA PNEUMATA|PSILI PNEUMATA|POKRYTIE|HUNDRED THOUSANDS SIGN|MILLIONS SIGN"]⟩,
  ⟨0x48A, "CYRILLIC ", [
    "CAPITAL LETTER SHORT I WITH TAIL|SMALL LETTER SHORT I WITH TAIL|CAPITAL LETTER SEMISOFT SIGN",
    "SMALL LETTER SEMISOFT SIGN|CAPITAL LETTER ER WITH TICK|SMALL LETTER ER WITH TICK",
    "CAPITAL LETTER GHE WITH UPTURN|SMALL LETTER GHE WITH UPTURN|CAPITAL LETTER GHE WITH STROKE",
    "SMALL LETTER GHE WITH STROKE|CAPITAL LETTER GHE WITH MIDDLE HOOK|SMALL LETTER GHE WITH MIDDLE HOOK",
    "CAPITAL LETTER ZHE WITH DESCENDER|SMALL LETTER ZHE WITH DESCENDER|CAPITAL LETTER ZE WITH DESCENDER",
    "SMALL LETTER ZE WITH DESCENDER|CAPITAL LETTER KA WITH DESCENDER|SMALL LETTER KA WITH DESCENDER",
    "CAPITAL LETTER KA WITH VERTICAL STROKE|SMALL LETTER KA WITH VERTICAL STROKE|CAPITAL LETTER KA WITH STROKE",
    "SMALL LETTER KA WITH STROKE|CAPITAL LETTER BASHKIR KA|SMALL LETTER BASHKIR KA|CAPITAL LETTER EN WITH DESCENDER",
    "SMALL LETTER EN WITH DESCENDER|CAPITAL LIGATURE EN GHE|SMALL LIGATURE EN GHE",
    "CAPITAL LETTER PE WITH MIDDLE HOOK|SMALL LETTER PE WITH MIDDLE HOOK|CAPITAL LETTER ABKHASIAN HA",
    "SMALL LETTER ABKHASIAN HA|CAPITAL LETTER ES WITH DESCENDER|SMALL LETTER ES WITH DESCENDER",
    "CAPITAL LETTER TE WITH DESCENDER|SMALL LETTER TE WITH DESCENDER|CAPITAL LETTER STRAIGHT U",
    "SMALL LETTER STRAIGHT U|CAPITAL LETTER STRAIGHT U WITH STROKE|SMALL LETTER STRAIGHT U WITH STROKE",
    "CAPITAL LETTER HA WITH DESCENDER|SMALL LETTER HA WITH DESCENDER|CAPITAL LIGATURE TE TSE|SMALL LIGATURE TE TSE",
    "CAPITAL LETTER CHE WITH DESCENDER|SMALL LETTER CHE WITH DESCENDER|CAPITAL LETTER CHE WITH VERTICAL STROKE",
    "SMALL LETTER CHE WITH VERTICAL STROKE|CAPITAL LETTER SHHA|SMALL LETTER SHHA|CAPITAL LETTER ABKHASIAN CHE",
    "SMALL LETTER ABKHASIAN CHE|CAPITAL LETTER ABKHASIAN CHE WITH DESCENDER",
    "SMALL LETTER ABKHASIAN CHE WITH DESCENDER|LETTER PALOCHKA|CAPITAL LETTER ZHE WITH BREVE",
    "SMALL LETTER ZHE WITH BREVE|CAPITAL LETTER KA WITH HOOK|SMALL LETTER KA WITH HOOK|CAPITAL LETTER EL WITH TAIL",
    "SMALL LETTER EL WITH TAIL|CAPITAL LETTER EN WITH HOOK|SMALL LETTER EN WITH HOOK|CAPITAL LETTER EN WITH TAIL",
    "SMALL LETTER EN WITH TAIL|CAPITAL LETTER KHAKASSIAN CHE|SMALL LETTER KHAKASSIAN CHE",
    "CAPITAL LETTER EM WITH TAIL|SMALL LETTER EM WITH TAIL|SMALL LETTER PALOCHKA|CAPITAL LETTER A WITH BREVE",
    "SMALL LETTER A WITH BREVE|CAPITAL LETTER A WITH DIAERESIS|SMALL LETTER A WITH DIAERESIS|CAPITAL LIGATURE A IE",
    "SMALL LIGATURE A IE|CAPITAL LETTER IE WITH BREVE|SMALL LETTER IE WITH BREVE|CAPITAL LETTER SCHWA",
    "SMALL LETTER SCHWA|CAPITAL LETTER SCHWA WITH DIAERESIS|SMALL LETTER SCHWA WITH DIAERESIS",
    "CAPITAL LETTER ZHE WITH DIAERESIS|SMALL LETTER ZHE WITH DIAERESIS|CAPITAL LETTER ZE WITH DIAERESIS",
    "SMALL LETTER ZE WITH DIAERESIS|CAPITAL LETTER ABKHASIAN DZE|SMALL LETTER ABKHASIAN DZE",
    "CAPITAL LETTER I WITH MACRON|SMALL LETTER I WITH MACRON|CAPITAL LETTER I WITH DIAERESIS",
    "SMALL LETTER I WITH DIAERESIS|CAPITAL LETTER O WITH DIAERESIS|SMALL LETTER O WITH DIAERESIS",
    "CAPITAL LETTER BARRED O|SMALL LETTER BARRED O|CAPITAL LETTER BARRED O WITH DIAERESIS",
    "SMALL LETTER BARRED O WITH DIAERESIS|CAPITAL LETTER E WITH DIAERESIS|SMALL LETTER E WITH DIAERESIS",
    "CAPITAL LETTER U WITH MACRON|SMALL LETTER U WITH MACRON|CAPITAL LETTER U WITH DIAERESIS",
    "SMALL LETTER U WITH DIAERESIS|CAPITAL LETTER U WITH DOUBLE ACUTE|SMALL LETTER U WITH DOUBLE ACUTE",
    "CAPITAL LETTER CHE WITH DIAERESIS|SMALL LETTER CHE WITH DIAERESIS|CAPITAL LETTER GHE WITH DESCENDER",
    "SMALL LETTER GHE WITH DESCENDER|CAPITAL LETTER YERU WITH DIAERESIS|SMALL LETTER YERU WITH DIAERESIS",
    "CAPITAL LETTER GHE WITH STROKE AND HOOK|SMALL LETTER GHE WITH STROKE AND HOOK|CAPITAL LETTER HA WITH HOOK",
    "SMALL LETTER HA WITH HOOK|CAPITAL LETTER HA WITH STROKE|SMALL LETTER HA WITH STROKE|CAPITAL LETTER KOMI DE",
    "SMALL LETTER KOMI DE|CAPITAL LETTER KOMI DJE|SMALL LETTER KOMI DJE|CAPITAL LETTER KOMI ZJE",
    "SMALL LETTER KOMI ZJE|CAPITAL LETTER KOMI DZJE|SMALL LETTER KOMI DZJE|CAPITAL LETTER KOMI LJE",
    "SMALL LETTER KOMI LJE|CAPITAL LETTER KOMI NJE|SMALL LETTER KOMI NJE|CAPITAL LETTER KOMI SJE",
    "SMALL LETTER KOMI SJE|CAPITAL LETTER KOMI TJE|SMALL LETTER KOMI TJE|CAPITAL LETTER REVERSED ZE",
    "SMALL LETTER REVERSED ZE|CAPITAL LETTER EL WITH HOOK|SMALL LETTER EL WITH HOOK|CAPITAL LETTER LHA",
    "SMALL LETTER LHA|CAPITAL LETTER RHA|SMALL LETTER RHA|CAPITAL LETTER YAE|SMALL LETTER YAE|CAPITAL LETTER QA",
    "SMALL LETTER QA|CAPITAL LETTER WE|SMALL LETTER WE|CAPITAL LETTER ALEUT KA|SMALL LETTER ALEUT KA",
    "CAPITAL LETTER EL WITH MIDDLE HOOK|SMALL LETTER EL WITH MIDDLE HOOK|CAPITAL LETTER EN WITH MIDDLE HOOK",
    "SMALL LETTER EN WITH MIDDLE HOOK|CAPITAL LETTER PE WITH DESCENDER|SMALL LETTER PE WITH DESCENDER",
    "CAPITAL LETTER SHHA WITH DESCENDER|SMALL LETTER SHHA WITH DESCENDER|CAPITAL LETTER EN WITH LEFT HOOK",
    "SMALL LETTER EN WITH LEFT HOOK|CAPITAL LETTER DZZHE|SMALL LETTER DZZHE|CAPITAL LETTER DCHE|SMALL LETTER DCHE",
    "CAPITAL LETTER EL WITH DESCENDER|SMALL LETTER EL WITH DESCENDER"]⟩,
  ⟨0x531, "ARMENIAN CAPITAL LETTER ", [
    "AYB|BEN|GIM|DA|ECH|ZA|EH|ET|TO|ZHE|INI|LIWN|XEH|CA|KEN|HO|JA|GHAD|CHEH|MEN|YI|NOW|SHA|VO|CHA|PEH|JHEH|RA|SEH",
    "VEW|TIWN|REH|CO|YIWN|PIWR|KEH|OH|FEH"]⟩,
  ⟨0x559, "ARMENIAN ", [
    "MODIFIER LETTER LEFT HALF RING|APOSTROPHE|EMPHASIS MARK|EXCLAMATION MARK|COMMA|QUESTION MARK|ABBREVIATION MARK"]⟩,
  ⟨0x560, "ARMENIAN SMALL LETTER ", [
    "TURNED AYB|AYB|BEN|GIM|DA|ECH|ZA|EH|ET|TO|ZHE|INI|LIWN|XEH|CA|KEN|HO|JA|GHAD|CHEH|MEN|YI|NOW|SHA|VO|CHA|PEH",
    "JHEH|RA|SEH|VEW|TIWN|REH|CO|YIWN|PIWR|KEH|OH|FEH"]⟩,
  ⟨0x587, "ARMENIAN ", ["SMALL LIGATURE ECH YIWN|SMALL LETTER YI WITH STROKE|FULL STOP|HYPHEN"]⟩,
  ⟨0x58D, "", ["RIGHT-FACING ARMENIAN ETERNITY SIGN|LEFT-FACING ARMENIAN ETERNITY SIGN|ARMENIAN DRAM SIGN"]⟩,
  ⟨0x591, "HEBREW ACCENT ", [
    "ETNAHTA|SEGOL|SHALSHELET|ZAQEF QATAN|ZAQEF GADOL|TIPEHA|REVIA|ZARQA|PASHTA|YETIV|TEVIR|GERESH|GERESH MUQDAM",
    "GERSHAYIM|QARNEY PARA|TELISHA GEDOLA|PAZER|ATNAH HAFUKH|MUNAH|MAHAPAKH|MERKHA|MERKHA KEFULA|DARGA|QADMA",
    "TELISHA QETANA|YERAH BEN YOMO|OLE|ILUY|DEHI|ZINOR"]⟩,
  ⟨0x5AF, "HEBREW MARK MASORA CIRCLE", [""]⟩,
  ⟨0x5B0, "HEBREW POINT ", [
    "SHEVA|HATAF SEGOL|HATAF PATAH|HATAF QAMATS|HIRIQ|TSERE|SEGOL|PATAH|QAMATS|HOLAM|HOLAM HASER FOR VAV|QUBUTS",
    "DAGESH OR MAPIQ|METEG"]⟩,
  ⟨0x5BE, "HEBREW ", [
    "PUNCTUATION MAQAF|POINT RAFE|PUNCTUATION PASEQ|POINT SHIN DOT|POINT SIN DOT|PUNCTUATION SOF PASUQ",
    "MARK UPPER DOT|MARK LOWER DOT|PUNCTUATION NUN HAFUKHA|POINT QAMATS QATAN"]⟩,
  ⟨0x5D0, "HEBREW LETTER ", [
    "ALEF|BET|GIMEL|DALET|HE|VAV|ZAYIN|HET|TET|YOD|FINAL KAF|KAF|LAMED|FINAL MEM|MEM|FINAL NUN|NUN|SAMEKH|AYIN",
    "FINAL PE|PE|FINAL TSADI|TSADI|QOF|RESH|SHIN|TAV"]⟩,
  ⟨0x5EF, "HEBREW YOD TRIANGLE", [""]⟩,
  ⟨0x5F0, "HEBREW LIGATURE YIDDISH ", ["DOUBLE VAV|VAV YOD|DOUBLE YOD"]⟩,
  ⟨0x5F3, "HEBREW PUNCTUATION ", ["GERESH|GERSHAYIM"]⟩,
  ⟨0x600, "ARABIC ", ["NUMBER SIGN|SIGN SANAH|FOOTNOTE MARKER|SIGN SAFHA|SIGN SAMVAT|NUMBER MARK ABOVE"]⟩,
  ⟨0x606, "", [
    "ARABIC-INDIC CUBE ROOT|ARABIC-INDIC FOURTH ROOT|ARABIC RAY|ARABIC-INDIC PER MILLE SIGN",
    "ARABIC-INDIC PER TEN THOUSAND SIGN|AFGHANI SIGN"]⟩,
  ⟨0x60C, "ARABIC ", [
    "COMMA|DATE SEPARATOR|POETIC VERSE SIGN|SIGN MISRA|SIGN SALLALLAHOU ALAYHE WASSALLAM|SIGN ALAYHE ASSALLAM",
    "SIGN RAHMATULLAH ALAYHE|SIGN RADI ALLAHOU ANHU|SIGN TAKHALLUS|SMALL HIGH TAH",
    "SMALL HIGH LIGATURE ALEF WITH LAM WITH YEH|SMALL HIGH ZAIN|SMALL FATHA|SMALL DAMMA|SMALL KASRA|SEMICOLON",
    "LETTER MARK|END OF TEXT MARK|TRIPLE DOT PUNCTUATION MARK|QUESTION MARK"]⟩,
  ⟨0x620, "ARABIC LETTER ", [
    "KASHMIRI YEH|HAMZA|ALEF WITH MADDA ABOVE|ALEF WITH HAMZA ABOVE|WAW WITH HAMZA ABOVE|ALEF WITH HAMZA BELOW",
    "YEH WITH HAMZA ABOVE|ALEF|BEH|TEH MARBUTA|TEH|THEH|JEEM|HAH|KHAH|DAL|THAL|REH|ZAIN|SEEN|SHEEN|SAD|DAD|TAH|ZAH",
    "AIN|GHAIN|KEHEH WITH TWO DOTS ABOVE|KEHEH WITH THREE DOTS BELOW"]⟩,
  ⟨0x63D, "ARABIC LETTER FARSI YEH WITH ", ["INVERTED V|TWO DOTS ABOVE|THREE DOTS ABOVE"]⟩,
  ⟨0x640, "ARABIC TATWEEL", [""]⟩,
  ⟨0x641, "ARABIC LETTER ", ["FEH|QAF|KAF|LAM|MEEM|NOON|HEH|WAW|ALEF MAKSURA|YEH"]⟩,
  ⟨0x64B, "ARABIC ", [
    "FATHATAN|DAMMATAN|KASRATAN|FATHA|DAMMA|KASRA|SHADDA|SUKUN|MADDAH ABOVE|HAMZA ABOVE|HAMZA BELOW|SUBSCRIPT ALEF",
    "INVERTED DAMMA|MARK NOON GHUNNA|ZWARAKAY|VOWEL SIGN SMALL V ABOVE|VOWEL SIGN INVERTED SMALL V ABOVE",
    "VOWEL SIGN DOT BELOW|REVERSED DAMMA|FATHA WITH TWO DOTS|WAVY HAMZA BELOW"]⟩,
  ⟨0x660, "ARABIC-INDIC DIGIT ", ["ZERO|ONE|TWO|THREE|FOUR|FIVE|SIX|SEVEN|EIGHT|NINE"]⟩,
  ⟨0x66A, "ARABIC ", ["PERCENT SIGN|DECIMAL SEPARATOR|THOUSANDS SEPARATOR|FIVE POINTED STAR"]⟩,
  ⟨0x66E, "ARABIC LETTER ", [
    "DOTLESS BEH|DOTLESS QAF|SUPERSCRIPT ALEF|ALEF WASLA|ALEF WITH WAVY HAMZA ABOVE|ALEF WITH WAVY HAMZA BELOW",
    "HIGH HAMZA|HIGH HAMZA ALEF|HIGH HAMZA WAW|U WITH HAMZA ABOVE|HIGH HAMZA YEH|TTEH|TTEHEH|BEEH|TEH WITH RING",
    "TEH WITH THREE DOTS ABOVE DOWNWARDS|PEH|TEHEH|BEHEH|HAH WITH HAMZA ABOVE|HAH WITH TWO DOTS VERTICAL ABOVE|NYEH",
    "DYEH|HAH WITH THREE DOTS ABOVE|TCHEH|TCHEHEH|DDAL|DAL WITH RING|DAL WITH DOT BELOW",
    "DAL WITH DOT BELOW AND SMALL TAH|DAHAL|DDAHAL|DUL|DAL WITH THREE DOTS ABOVE DOWNWARDS|DAL WITH FOUR DOTS ABOVE",
    "RREH|REH WITH SMALL V|REH WITH RING|REH WITH DOT BELOW|REH WITH SMALL V BELOW|REH WITH DOT BELOW AND DOT ABOVE",
    "REH WITH TWO DOTS ABOVE|JEH|REH WITH FOUR DOTS ABOVE|SEEN WITH DOT BELOW AND DOT ABOVE",
    "SEEN WITH THREE DOTS BELOW|SEEN WITH THREE DOTS BELOW AND THREE DOTS ABOVE|SAD WITH TWO DOTS BELOW",
    "SAD WITH THREE DOTS ABOVE|TAH WITH THREE DOTS ABOVE|AIN WITH THREE DOTS ABOVE|DOTLESS FEH",
    "FEH WITH DOT MOVED BELOW|FEH WITH DOT BELOW|VEH|FEH WITH THREE DOTS BELOW|PEHEH|QAF WITH DOT ABOVE",
    "QAF WITH THREE DOTS ABOVE|KEHEH|SWASH KAF|KAF WITH RING|KAF WITH DOT ABOVE|NG|KAF WITH THREE DOTS BELOW|GAF",
    "GAF WITH RING|NGOEH|GAF WITH TWO DOTS BELOW|GUEH|GAF WITH THREE DOTS ABOVE|LAM WITH SMALL V|LAM WITH DOT ABOVE",
    "LAM WITH THREE DOTS ABOVE|LAM WITH THREE DOTS BELOW|NOON WITH DOT BELOW|NOON GHUNNA|RNOON|NOON WITH RING",
    "NOON WITH THREE DOTS ABOVE|HEH DOACHASHMEE|TCHEH WITH DOT ABOVE|HEH WITH YEH ABOVE|HEH GOAL",
    "HEH GOAL WITH HAMZA ABOVE|TEH MARBUTA GOAL|WAW WITH RING|KIRGHIZ OE|OE|U|YU|KIRGHIZ YU|WAW WITH TWO DOTS ABOVE",
    "VE|FARSI YEH|YEH WITH TAIL|YEH WITH SMALL V|WAW WITH DOT ABOVE|E|YEH WITH THREE DOTS BELOW|YEH BARREE",
    "YEH BARREE WITH HAMZA ABOVE"]⟩,
  ⟨0x6D4, "ARABIC ", ["FULL STOP|LETTER AE"]⟩,
  ⟨0x6D6, "ARABIC SMALL HIGH ", [
    "LIGATURE SAD WITH LAM WITH ALEF MAKSURA|LIGATURE QAF WITH LAM WITH ALEF MAKSURA|MEEM INITIAL FORM|LAM ALEF",
    "JEEM|THREE DOTS|SEEN"]⟩,
  ⟨0x6DD, "ARABIC ", ["END OF AYAH|START OF RUB EL HIZB"]⟩,
  ⟨0x6DF, "ARABIC SMALL ", [
    "HIGH ROUNDED ZERO|HIGH UPRIGHT RECTANGULAR ZERO|HIGH DOTLESS HEAD OF KHAH|HIGH MEEM ISOLATED FORM|LOW SEEN",
    "HIGH MADDA|WAW|YEH|HIGH YEH|HIGH NOON"]⟩,
  ⟨0x6E9, "ARABIC ", [
    "PLACE OF SAJDAH|EMPTY CENTRE LOW STOP|EMPTY CENTRE HIGH STOP|ROUNDED HIGH STOP WITH FILLED CENTRE",
    "SMALL LOW MEEM|LETTER DAL WITH INVERTED V|LETTER REH WITH INVERTED V"]⟩,
  ⟨0x6F0, "EXTENDED ARABIC-INDIC DIGIT ", ["ZERO|ONE|TWO|THREE|FOUR|FIVE|SIX|SEVEN|EIGHT|NINE"]⟩,
  ⟨0x6FA, "ARABIC ", [
    "LETTER SHEEN WITH DOT BELOW|LETTER DAD WITH DOT BELOW|LETTER GHAIN WITH DOT BELOW|SIGN SINDHI AMPERSAND",
    "SIGN SINDHI POSTPOSITION MEN|LETTER HEH WITH INVERTED V"]⟩,
  ⟨0x700, "SYRIAC ", [
    "END OF PARAGRAPH|SUPRALINEAR FULL STOP|SUBLINEAR FULL STOP|SUPRALINEAR COLON|SUBLINEAR COLON|HORIZONTAL COLON",
    "COLON SKEWED LEFT|COLON SKEWED RIGHT|SUPRALINEAR COLON SKEWED LEFT|SUBLINEAR COLON SKEWED RIGHT|CONTRACTION",
    "HARKLEAN OBELUS|HARKLEAN METOBELUS|HARKLEAN ASTERISCUS"]⟩,
  ⟨0x70F, "SYRIAC ABBREVIATION MARK", [""]⟩,
  ⟨0x710, "SYRIAC LETTER ", [
    "ALAPH|SUPERSCRIPT ALAPH|BETH|GAMAL|GAMAL GARSHUNI|DALATH|DOTLESS DALATH RISH|HE|WAW|ZAIN|HETH|TETH",
    "TETH GARSHUNI|YUDH|YUDH HE|KAPH|LAMADH|MIM|NUN|SEMKATH|FINAL SEMKATH|E|PE|REVERSED PE|SADHE|QAPH|RISH|SHIN|TAW",
    "PERSIAN BHETH|PERSIAN GHAMAL|PERSIAN DHALATH"]⟩,
  ⟨0x730, "SYRIAC ", [
    "PTHAHA ABOVE|PTHAHA BELOW|PTHAHA DOTTED|ZQAPHA ABOVE|ZQAPHA BELOW|ZQAPHA DOTTED|RBASA ABOVE|RBASA BELOW",
    "DOTTED ZLAMA HORIZONTAL|DOTTED ZLAMA ANGULAR|HBASA ABOVE|HBASA BELOW|HBASA-ESASA DOTTED|ESASA ABOVE",
    "ESASA BELOW|RWAHA|FEMININE DOT|QUSHSHAYA|RUKKAKHA|TWO VERTICAL DOTS ABOVE|TWO VERTICAL DOTS BELOW",
    "THREE DOTS ABOVE|THREE DOTS BELOW|OBLIQUE LINE ABOVE|OBLIQUE LINE BELOW|MUSIC|BARREKH"]⟩,
  ⟨0x74D, "SYRIAC LETTER SOGDIAN ", ["ZHAIN|KHAPH|FE"]⟩,
  ⟨0x750, "ARABIC LETTER BEH WITH ", [
    "THREE DOTS HORIZONTALLY BELOW|DOT BELOW AND THREE DOTS ABOVE|THREE DOTS POINTING UPWARDS BELOW",
    "THREE DOTS POINTING UPWARDS BELOW AND TWO DOTS ABOVE|TWO DOTS BELOW AND DOT ABOVE|INVERTED SMALL V BELOW",
    "SMALL V"]⟩,
  ⟨0x757, "ARABIC LETTER ", [
    "HAH WITH TWO DOTS ABOVE|HAH WITH THREE DOTS POINTING UPWARDS BELOW",
    "DAL WITH TWO DOTS VERTICALLY BELOW AND SMALL TAH|DAL WITH INVERTED SMALL V BELOW|REH WITH STROKE",
    "SEEN WITH FOUR DOTS ABOVE|AIN WITH TWO DOTS ABOVE|AIN WITH THREE DOTS POINTING DOWNWARDS ABOVE",
    "AIN WITH TWO DOTS VERTICALLY ABOVE|FEH WITH TWO DOTS BELOW|FEH WITH THREE DOTS POINTING UPWARDS BELOW",
    "KEHEH WITH DOT ABOVE|KEHEH WITH THREE DOTS ABOVE|KEHEH WITH THREE DOTS POINTING UPWARDS BELOW",
    "MEEM WITH DOT ABOVE|MEEM WITH DOT BELOW|NOON WITH TWO DOTS BELOW|NOON WITH SMALL TAH|NOON WITH SMALL V",
    "LAM WITH BAR|REH WITH TWO DOTS VERTICALLY ABOVE|REH WITH HAMZA ABOVE|SEEN WITH TWO DOTS VERTICALLY ABOVE",
    "HAH WITH SMALL ARABIC LETTER TAH BELOW|HAH WITH SMALL ARABIC LETTER TAH AND TWO DOTS",
    "SEEN WITH SMALL ARABIC LETTER TAH AND TWO DOTS|REH WITH SMALL ARABIC LETTER TAH AND TWO DOTS",
    "HAH WITH SMALL ARABIC LETTER TAH ABOVE"]⟩,
  ⟨0x773, "ARABIC LETTER ALEF WITH EXTENDED ARABIC-INDIC DIGIT ", ["TWO ABOVE|THREE ABOVE"]⟩,
  ⟨0x775, "ARABIC LETTER FARSI YEH WITH EXTENDED ARABIC-INDIC DIGIT ", ["TWO ABOVE|THREE ABOVE|FOUR BELOW"]⟩,
  ⟨0x778, "ARABIC LETTER WAW WITH EXTENDED ARABIC-INDIC DIGIT ", ["TWO ABOVE|THREE ABOVE"]⟩,
  ⟨0x77A, "ARABIC LETTER YEH BARREE WITH EXTENDED ARABIC-INDIC DIGIT ", ["TWO ABOVE|THREE ABOVE"]⟩,
  ⟨0x77C, "ARABIC LETTER ", [
    "HAH WITH EXTENDED ARABIC-INDIC DIGIT FOUR BELOW|SEEN WITH EXTENDED ARABIC-INDIC DIGIT FOUR ABOVE",
    "SEEN WITH INVERTED V|KAF WITH TWO DOTS ABOVE"]⟩,
  ⟨0x780, "THAANA LETTER ", [
    "HAA|SHAVIYANI|NOONU|RAA|BAA|LHAVIYANI|KAAFU|ALIFU|VAAVU|MEEMU|FAAFU|DHAALU|THAA|LAAMU|GAAFU|GNAVIYANI|SEENU",
    "DAVIYANI|ZAVIYANI|TAVIYANI|YAA|PAVIYANI|JAVIYANI|CHAVIYANI|TTAA|HHAA|KHAA|THAALU|ZAA|SHEENU|SAADHU|DAADHU|TO",
    "ZO|AINU|GHAINU|QAAFU|WAAVU"]⟩,
  ⟨0x7A6, "THAANA ", [
    "ABAFILI|AABAAFILI|IBIFILI|EEBEEFILI|UBUFILI|OOBOOFILI|EBEFILI|EYBEYFILI|OBOFILI|OABOAFILI|SUKUN|LETTER NAA"]⟩,
  ⟨0x7C0, "NKO DIGIT ", ["ZERO|ONE|TWO|THREE|FOUR|FIVE|SIX|SEVEN|EIGHT|NINE"]⟩,
  ⟨0x7CA, "NKO LETTER ", [
    "A|EE|I|E|U|OO|O|DAGBASINNA|N|BA|PA|TA|JA|CHA|DA|RA|RRA|SA|GBA|FA|KA|LA|NA WOLOSO|MA|NYA|NA|HA|WA|YA|NYA WOLOSO",
    "JONA JA|JONA CHA|JONA RA"]⟩,
  ⟨0x7EB, "NKO COMBINING ", [
    "SHORT HIGH TONE|SHORT LOW TONE|SHORT RISING TONE|LONG DESCENDING TONE|LONG HIGH TONE|LONG LOW TONE",
    "LONG RISING TONE|NASALIZATION MARK|DOUBLE DOT ABOVE"]⟩,
  ⟨0x7F4, "NKO ", [
    "HIGH TONE APOSTROPHE|LOW TONE APOSTROPHE|SYMBOL OO DENNEN|SYMBOL GBAKURUNEN|COMMA|EXCLAMATION MARK|LAJANYALAN"]⟩,
  ⟨0x7FD, "NKO ", ["DANTAYALAN|DOROME SIGN|TAMAN SIGN"]⟩]

/-- From U+0800 to U+0FFF. -/
def from0800 : List NameRun := [
  ⟨0x800, "SAMARITAN LETTER ", [
    "ALAF|BIT|GAMAN|DALAT|IY|BAA|ZEN|IT|TIT|YUT|KAAF|LABAT|MIM|NUN|SINGAAT|IN|FI|TSAADIY|QUF|RISH|SHAN|TAAF"]⟩,
  ⟨0x816, "SAMARITAN ", [
    "MARK IN|MARK IN-ALAF|MARK OCCLUSION|MARK DAGESH|MODIFIER LETTER EPENTHETIC YUT|MARK EPENTHETIC YUT"]⟩,
  ⟨0x81C, "SAMARITAN VOWEL SIGN ", ["LONG E|E|OVERLONG AA|LONG AA|AA|OVERLONG A|LONG A|A"]⟩,
  ⟨0x824, "SAMARITAN ", [
    "MODIFIER LETTER SHORT A|VOWEL SIGN SHORT A|VOWEL SIGN LONG U|VOWEL SIGN U|MODIFIER LETTER I|VOWEL SIGN LONG I",
    "VOWEL SIGN I|VOWEL SIGN O|VOWEL SIGN SUKUN|MARK NEQUDAA"]⟩,
  ⟨0x830, "SAMARITAN PUNCTUATION ", ["NEQUDAA|AFSAAQ|ANGED|BAU|ATMAAU|SHIYYAALAA"]⟩,
  ⟨0x836, "SAMARITAN ABBREVIATION MARK", [""]⟩,
  ⟨0x837, "SAMARITAN PUNCTUATION ", ["MELODIC QITSA|ZIQAA|QITSA|ZAEF|TURU|ARKAANU|SOF MASHFAAT|ANNAAU"]⟩,
  ⟨0x840, "MANDAIC LETTER ", [
    "HALQA|AB|AG|AD|AH|USHENNA|AZ|IT|ATT|AKSA|AK|AL|AM|AN|AS|IN|AP|ASZ|AQ|AR|ASH|AT|DUSHENNA|KAD|AIN"]⟩,
  ⟨0x859, "MANDAIC ", ["AFFRICATION MARK|VOCALIZATION MARK|GEMINATION MARK"]⟩,
  ⟨0x85E, "MANDAIC PUNCTUATION", [""]⟩,
  ⟨0x860, "SYRIAC LETTER MALAYALAM ", ["NGA|JA|NYA|TTA|NNA|NNNA|BHA|RA|LLA|LLLA|SSA"]⟩,
  ⟨0x870, "ARABIC LETTER ALEF WITH ", [
    "ATTACHED FATHA|ATTACHED TOP RIGHT FATHA|RIGHT MIDDLE STROKE|LEFT MIDDLE STROKE|ATTACHED KASRA",
    "ATTACHED BOTTOM RIGHT KASRA|ATTACHED ROUND DOT ABOVE|ATTACHED RIGHT ROUND DOT|ATTACHED LEFT ROUND DOT",
    "ATTACHED ROUND DOT BELOW|DOT ABOVE|ATTACHED TOP RIGHT FATHA AND DOT ABOVE|RIGHT MIDDLE STROKE AND DOT ABOVE",
    "ATTACHED BOTTOM RIGHT KASRA AND DOT ABOVE|ATTACHED TOP RIGHT FATHA AND LEFT RING",
    "RIGHT MIDDLE STROKE AND LEFT RING|ATTACHED BOTTOM RIGHT KASRA AND LEFT RING|ATTACHED RIGHT HAMZA",
    "ATTACHED LEFT HAMZA"]⟩,
  ⟨0x883, "ARABIC TATWEEL WITH ", ["OVERSTRUCK HAMZA|OVERSTRUCK WAW|TWO DOTS BELOW"]⟩,
  ⟨0x886, "ARABIC ", [
    "LETTER THIN YEH|BASELINE ROUND DOT|RAISED ROUND DOT|LETTER NOON WITH INVERTED SMALL V",
    "LETTER HAH WITH INVERTED SMALL V BELOW|LETTER TAH WITH DOT BELOW|LETTER TAH WITH THREE DOTS BELOW",
    "LETTER KEHEH WITH TWO DOTS VERTICALLY BELOW|VERTICAL TAIL"]⟩,
  ⟨0x890, "ARABIC ", ["POUND MARK ABOVE|PIASTRE MARK ABOVE"]⟩,
  ⟨0x898, "ARABIC ", [
    "SMALL HIGH WORD AL-JUZ|SMALL LOW WORD ISHMAAM|SMALL LOW WORD IMAALA|SMALL LOW WORD TASHEEL|MADDA WAAJIB",
    "SUPERSCRIPT ALEF MOKHASSAS|DOUBLED MADDA|HALF MADDA OVER MADDA"]⟩,
  ⟨0x8A0, "ARABIC LETTER ", [
    "BEH WITH SMALL V BELOW|BEH WITH HAMZA ABOVE|JEEM WITH TWO DOTS ABOVE|TAH WITH TWO DOTS ABOVE",
    "FEH WITH DOT BELOW AND THREE DOTS ABOVE|QAF WITH DOT BELOW|LAM WITH DOUBLE BAR|MEEM WITH THREE DOTS ABOVE",
    "YEH WITH TWO DOTS BELOW AND HAMZA ABOVE|YEH WITH TWO DOTS BELOW AND DOT ABOVE|REH WITH LOOP",
    "WAW WITH DOT WITHIN|ROHINGYA YEH|LOW ALEF|DAL WITH THREE DOTS BELOW|SAD WITH THREE DOTS BELOW",
    "GAF WITH INVERTED STROKE|STRAIGHT WAW|ZAIN WITH INVERTED V ABOVE|AIN WITH THREE DOTS BELOW|KAF WITH DOT BELOW",
    "QAF WITH DOT BELOW AND NO DOTS ABOVE|BEH WITH SMALL MEEM ABOVE|PEH WITH SMALL MEEM ABOVE",
    "TEH WITH SMALL TEH ABOVE|REH WITH SMALL NOON ABOVE|YEH WITH TWO DOTS BELOW AND SMALL NOON ABOVE|AFRICAN FEH",
    "AFRICAN QAF|AFRICAN NOON|PEH WITH SMALL V|TEH WITH SMALL V|TTEH WITH SMALL V|TCHEH WITH SMALL V",
    "KEHEH WITH SMALL V|GHAIN WITH THREE DOTS ABOVE|AFRICAN QAF WITH THREE DOTS ABOVE|JEEM WITH THREE DOTS ABOVE",
    "JEEM WITH THREE DOTS BELOW|LAM WITH SMALL ARABIC LETTER TAH ABOVE|GRAF"]⟩,
  ⟨0x8C9, "ARABIC SMALL ", ["FARSI YEH|HIGH FARSI YEH|HIGH YEH BARREE WITH TWO DOTS BELOW|HIGH WORD SAH|HIGH ZAH"]⟩,
  ⟨0x8CE, "ARABIC ", [
    "LARGE ROUND DOT ABOVE|LARGE ROUND DOT BELOW|SUKUN BELOW|LARGE CIRCLE BELOW|LARGE ROUND DOT INSIDE CIRCLE BELOW"]⟩,
  ⟨0x8D3, "ARABIC SMALL ", [
    "LOW WAW|HIGH WORD AR-RUB|HIGH SAD|HIGH AIN|HIGH QAF|HIGH NOON WITH KASRA|LOW NOON WITH KASRA"]⟩,
  ⟨0x8DA, "ARABIC SMALL HIGH WORD ", ["ATH-THALATHA|AS-SAJDA|AN-NISF|SAKTA|QIF|WAQFA"]⟩,
  ⟨0x8E0, "ARABIC ", [
    "SMALL HIGH FOOTNOTE MARKER|SMALL HIGH SIGN SAFHA|DISPUTED END OF AYAH|TURNED DAMMA BELOW|CURLY FATHA",
    "CURLY DAMMA|CURLY KASRA|CURLY FATHATAN|CURLY DAMMATAN|CURLY KASRATAN|TONE ONE DOT ABOVE|TONE TWO DOTS ABOVE",
    "TONE LOOP ABOVE|TONE ONE DOT BELOW|TONE TWO DOTS BELOW|TONE LOOP BELOW|OPEN FATHATAN|OPEN DAMMATAN",
    "OPEN KASRATAN|SMALL HIGH WAW|FATHA WITH RING|FATHA WITH DOT ABOVE|KASRA WITH DOT BELOW|LEFT ARROWHEAD ABOVE",
    "RIGHT ARROWHEAD ABOVE|LEFT ARROWHEAD BELOW|RIGHT ARROWHEAD BELOW|DOUBLE RIGHT ARROWHEAD ABOVE",
    "DOUBLE RIGHT ARROWHEAD ABOVE WITH DOT|RIGHT ARROWHEAD ABOVE WITH DOT|DAMMA WITH DOT|MARK SIDEWAYS NOON GHUNNA"]⟩,
  ⟨0x900, "DEVANAGARI SIGN ", ["INVERTED CANDRABINDU|CANDRABINDU|ANUSVARA|VISARGA"]⟩,
  ⟨0x904, "DEVANAGARI LETTER ", [
    "SHORT A|A|AA|I|II|U|UU|VOCALIC R|VOCALIC L|CANDRA E|SHORT E|E|AI|CANDRA O|SHORT O|O|AU|KA|KHA|GA|GHA|NGA|CA",
    "CHA|JA|JHA|NYA|TTA|TTHA|DDA|DDHA|NNA|TA|THA|DA|DHA|NA|NNNA|PA|PHA|BA|BHA|MA|YA|RA|RRA|LA|LLA|LLLA|VA|SHA|SSA",
    "SA|HA"]⟩,
  ⟨0x93A, "DEVANAGARI ", ["VOWEL SIGN OE|VOWEL SIGN OOE|SIGN NUKTA|SIGN AVAGRAHA"]⟩,
  ⟨0x93E, "DEVANAGARI VOWEL SIGN ", [
    "AA|I|II|U|UU|VOCALIC R|VOCALIC RR|CANDRA E|SHORT E|E|AI|CANDRA O|SHORT O|O|AU"]⟩,
  ⟨0x94D, "DEVANAGARI ", [
    "SIGN VIRAMA|VOWEL SIGN PRISHTHAMATRA E|VOWEL SIGN AW|OM|STRESS SIGN UDATTA|STRESS SIGN ANUDATTA|GRAVE ACCENT",
    "ACUTE ACCENT|VOWEL SIGN CANDRA LONG E|VOWEL SIGN UE|VOWEL SIGN UUE"]⟩,
  ⟨0x958, "DEVANAGARI LETTER ", ["QA|KHHA|GHHA|ZA|DDDHA|RHA|FA|YYA|VOCALIC RR|VOCALIC LL"]⟩,
  ⟨0x962, "DEVANAGARI ", ["VOWEL SIGN VOCALIC L|VOWEL SIGN VOCALIC LL|DANDA|DOUBLE DANDA"]⟩,
  ⟨0x966, "DEVANAGARI DIGIT ", ["ZERO|ONE|TWO|THREE|FOUR|FIVE|SIX|SEVEN|EIGHT|NINE"]⟩,
  ⟨0x970, "DEVANAGARI ", ["ABBREVIATION SIGN|SIGN HIGH SPACING DOT"]⟩,
  ⟨0x972, "DEVANAGARI LETTER ", ["CANDRA A|OE|OOE|AW|UE|UUE|MARWARI DDA|ZHA|HEAVY YA|GGA|JJA|GLOTTAL STOP|DDDA|BBA"]⟩,
  ⟨0x980, "BENGALI ", ["ANJI|SIGN CANDRABINDU|SIGN ANUSVARA|SIGN VISARGA"]⟩,
  ⟨0x985, "BENGALI LETTER ", ["A|AA|I|II|U|UU|VOCALIC R|VOCALIC L"]⟩,
  ⟨0x98F, "BENGALI LETTER ", ["E|AI"]⟩,
  ⟨0x993, "BENGALI LETTER ", ["O|AU|KA|KHA|GA|GHA|NGA|CA|CHA|JA|JHA|NYA|TTA|TTHA|DDA|DDHA|NNA|TA|THA|DA|DHA|NA"]⟩,
  ⟨0x9AA, "BENGALI LETTER ", ["PA|PHA|BA|BHA|MA|YA|RA"]⟩,
  ⟨0x9B2, "BENGALI LETTER LA", [""]⟩,
  ⟨0x9B6, "BENGALI LETTER ", ["SHA|SSA|SA|HA"]⟩,
  ⟨0x9BC, "BENGALI SIGN ", ["NUKTA|AVAGRAHA"]⟩,
  ⟨0x9BE, "BENGALI VOWEL SIGN ", ["AA|I|II|U|UU|VOCALIC R|VOCALIC RR"]⟩,
  ⟨0x9C7, "BENGALI VOWEL SIGN ", ["E|AI"]⟩,
  ⟨0x9CB, "BENGALI ", ["VOWEL SIGN O|VOWEL SIGN AU|SIGN VIRAMA|LETTER KHANDA TA"]⟩,
  ⟨0x9D7, "BENGALI AU LENGTH MARK", [""]⟩,
  ⟨0x9DC, "BENGALI LETTER ", ["RRA|RHA"]⟩,
  ⟨0x9DF, "BENGALI LETTER ", ["YYA|VOCALIC RR|VOCALIC LL"]⟩,
  ⟨0x9E2, "BENGALI VOWEL SIGN VOCALIC ", ["L|LL"]⟩,
  ⟨0x9E6, "BENGALI DIGIT ", ["ZERO|ONE|TWO|THREE|FOUR|FIVE|SIX|SEVEN|EIGHT|NINE"]⟩,
  ⟨0x9F0, "BENGALI ", ["LETTER RA WITH MIDDLE DIAGONAL|LETTER RA WITH LOWER DIAGONAL|RUPEE MARK|RUPEE SIGN"]⟩,
  ⟨0x9F4, "BENGALI CURRENCY NUMERATOR ", ["ONE|TWO|THREE|FOUR|ONE LESS THAN THE DENOMINATOR"]⟩,
  ⟨0x9F9, "BENGALI ", [
    "CURRENCY DENOMINATOR SIXTEEN|ISSHAR|GANDA MARK|LETTER VEDIC ANUSVARA|ABBREVIATION SIGN|SANDHI MARK"]⟩,
  ⟨0xA01, "GURMUKHI SIGN ", ["ADAK BINDI|BINDI|VISARGA"]⟩,
  ⟨0xA05, "GURMUKHI LETTER ", ["A|AA|I|II|U|UU"]⟩,
  ⟨0xA0F, "GURMUKHI LETTER ", ["EE|AI"]⟩,
  ⟨0xA13, "GURMUKHI LETTER ", ["OO|AU|KA|KHA|GA|GHA|NGA|CA|CHA|JA|JHA|NYA|TTA|TTHA|DDA|DDHA|NNA|TA|THA|DA|DHA|NA"]⟩,
  ⟨0xA2A, "GURMUKHI LETTER ", ["PA|PHA|BA|BHA|MA|YA|RA"]⟩,
  ⟨0xA32, "GURMUKHI LETTER ", ["LA|LLA"]⟩,
  ⟨0xA35, "GURMUKHI LETTER ", ["VA|SHA"]⟩,
  ⟨0xA38, "GURMUKHI LETTER ", ["SA|HA"]⟩,
  ⟨0xA3C, "GURMUKHI SIGN NUKTA", [""]⟩,
  ⟨0xA3E, "GURMUKHI VOWEL SIGN ", ["AA|I|II|U|UU"]⟩,
  ⟨0xA47, "GURMUKHI VOWEL SIGN ", ["EE|AI"]⟩,
  ⟨0xA4B, "GURMUKHI ", ["VOWEL SIGN OO|VOWEL SIGN AU|SIGN VIRAMA"]⟩,
  ⟨0xA51, "GURMUKHI SIGN UDAAT", [""]⟩,
  ⟨0xA59, "GURMUKHI LETTER ", ["KHHA|GHHA|ZA|RRA"]⟩,
  ⟨0xA5E, "GURMUKHI LETTER FA", [""]⟩,
  ⟨0xA66, "GURMUKHI DIGIT ", ["ZERO|ONE|TWO|THREE|FOUR|FIVE|SIX|SEVEN|EIGHT|NINE"]⟩,
  ⟨0xA70, "GURMUKHI ", ["TIPPI|ADDAK|IRI|URA|EK ONKAR|SIGN YAKASH|ABBREVIATION SIGN"]⟩,
  ⟨0xA81, "GUJARATI SIGN ", ["CANDRABINDU|ANUSVARA|VISARGA"]⟩,
  ⟨0xA85, "GUJARATI LETTER ", ["A|AA|I|II|U|UU|VOCALIC R|VOCALIC L"]⟩,
  ⟨0xA8D, "GUJARATI VOWEL CANDRA E", [""]⟩,
  ⟨0xA8F, "GUJARATI ", ["LETTER E|LETTER AI|VOWEL CANDRA O"]⟩,
  ⟨0xA93, "GUJARATI LETTER ", ["O|AU|KA|KHA|GA|GHA|NGA|CA|CHA|JA|JHA|NYA|TTA|TTHA|DDA|DDHA|NNA|TA|THA|DA|DHA|NA"]⟩,
  ⟨0xAAA, "GUJARATI LETTER ", ["PA|PHA|BA|BHA|MA|YA|RA"]⟩,
  ⟨0xAB2, "GUJARATI LETTER ", ["LA|LLA"]⟩,
  ⟨0xAB5, "GUJARATI LETTER ", ["VA|SHA|SSA|SA|HA"]⟩,
  ⟨0xABC, "GUJARATI SIGN ", ["NUKTA|AVAGRAHA"]⟩,
  ⟨0xABE, "GUJARATI VOWEL SIGN ", ["AA|I|II|U|UU|VOCALIC R|VOCALIC RR|CANDRA E"]⟩,
  ⟨0xAC7, "GUJARATI VOWEL SIGN ", ["E|AI|CANDRA O"]⟩,
  ⟨0xACB, "GUJARATI ", ["VOWEL SIGN O|VOWEL SIGN AU|SIGN VIRAMA"]⟩,
  ⟨0xAD0, "GUJARATI OM", [""]⟩,
  ⟨0xAE0, "GUJARATI LETTER VOCALIC ", ["RR|LL"]⟩,
  ⟨0xAE2, "GUJARATI VOWEL SIGN VOCALIC ", ["L|LL"]⟩,
  ⟨0xAE6, "GUJARATI DIGIT ", ["ZERO|ONE|TWO|THREE|FOUR|FIVE|SIX|SEVEN|EIGHT|NINE"]⟩,
  ⟨0xAF0, "GUJARATI ", ["ABBREVIATION SIGN|RUPEE SIGN"]⟩,
  ⟨0xAF9, "GUJARATI LETTER ZHA", [""]⟩,
  ⟨0xAFA, "GUJARATI SIGN ", ["SUKUN|SHADDA|MADDAH|THREE-DOT NUKTA ABOVE|CIRCLE NUKTA ABOVE|TWO-CIRCLE NUKTA ABOVE"]⟩,
  ⟨0xB01, "ORIYA SIGN ", ["CANDRABINDU|ANUSVARA|VISARGA"]⟩,
  ⟨0xB05, "ORIYA LETTER ", ["A|AA|I|II|U|UU|VOCALIC R|VOCALIC L"]⟩,
  ⟨0xB0F, "ORIYA LETTER ", ["E|AI"]⟩,
  ⟨0xB13, "ORIYA LETTER ", ["O|AU|KA|KHA|GA|GHA|NGA|CA|CHA|JA|JHA|NYA|TTA|TTHA|DDA|DDHA|NNA|TA|THA|DA|DHA|NA"]⟩,
  ⟨0xB2A, "ORIYA LETTER ", ["PA|PHA|BA|BHA|MA|YA|RA"]⟩,
  ⟨0xB32, "ORIYA LETTER ", ["LA|LLA"]⟩,
  ⟨0xB35, "ORIYA LETTER ", ["VA|SHA|SSA|SA|HA"]⟩,
  ⟨0xB3C, "ORIYA SIGN ", ["NUKTA|AVAGRAHA"]⟩,
  ⟨0xB3E, "ORIYA VOWEL SIGN ", ["AA|I|II|U|UU|VOCALIC R|VOCALIC RR"]⟩,
  ⟨0xB47, "ORIYA VOWEL SIGN ", ["E|AI"]⟩,
  ⟨0xB4B, "ORIYA ", ["VOWEL SIGN O|VOWEL SIGN AU|SIGN VIRAMA"]⟩,
  ⟨0xB55, "ORIYA ", ["SIGN OVERLINE|AI LENGTH MARK|AU LENGTH MARK"]⟩,
  ⟨0xB5C, "ORIYA LETTER ", ["RRA|RHA"]⟩,
  ⟨0xB5F, "ORIYA LETTER ", ["YYA|VOCALIC RR|VOCALIC LL"]⟩,
  ⟨0xB62, "ORIYA VOWEL SIGN VOCALIC ", ["L|LL"]⟩,
  ⟨0xB66, "ORIYA DIGIT ", ["ZERO|ONE|TWO|THREE|FOUR|FIVE|SIX|SEVEN|EIGHT|NINE"]⟩,
  ⟨0xB70, "ORIYA ", ["ISSHAR|LETTER WA"]⟩,
  ⟨0xB72, "ORIYA FRACTION ", ["ONE QUARTER|ONE HALF|THREE QUARTERS|ONE SIXTEENTH|ONE EIGHTH|THREE SIXTEENTHS"]⟩,
  ⟨0xB82, "TAMIL SIGN ", ["ANUSVARA|VISARGA"]⟩,
  ⟨0xB85, "TAMIL LETTER ", ["A|AA|I|II|U|UU"]⟩,
  ⟨0xB8E, "TAMIL LETTER ", ["E|EE|AI"]⟩,
  ⟨0xB92, "TAMIL LETTER ", ["O|OO|AU|KA"]⟩,
  ⟨0xB99, "TAMIL LETTER ", ["NGA|CA"]⟩,
  ⟨0xB9C, "TAMIL LETTER JA", [""]⟩,
  ⟨0xB9E, "TAMIL LETTER ", ["NYA|TTA"]⟩,
  ⟨0xBA3, "TAMIL LETTER ", ["NNA|TA"]⟩,
  ⟨0xBA8, "TAMIL LETTER ", ["NA|NNNA|PA"]⟩,
  ⟨0xBAE, "TAMIL LETTER ", ["MA|YA|RA|RRA|LA|LLA|LLLA|VA|SHA|SSA|SA|HA"]⟩,
  ⟨0xBBE, "TAMIL VOWEL SIGN ", ["AA|I|II|U|UU"]⟩,
  ⟨0xBC6, "TAMIL VOWEL SIGN ", ["E|EE|AI"]⟩,
  ⟨0xBCA, "TAMIL VOWEL SIGN ", ["O|OO|AU"]⟩,
  ⟨0xBCD, "TAMIL SIGN VIRAMA", [""]⟩,
  ⟨0xBD0, "TAMIL OM", [""]⟩,
  ⟨0xBD7, "TAMIL AU LENGTH MARK", [""]⟩,
  ⟨0xBE6, "TAMIL DIGIT ", ["ZERO|ONE|TWO|THREE|FOUR|FIVE|SIX|SEVEN|EIGHT|NINE"]⟩,
  ⟨0xBF0, "TAMIL ", [
    "NUMBER TEN|NUMBER ONE HUNDRED|NUMBER ONE THOUSAND|DAY SIGN|MONTH SIGN|YEAR SIGN|DEBIT SIGN|CREDIT SIGN",
    "AS ABOVE SIGN|RUPEE SIGN|NUMBER SIGN"]⟩,
  ⟨0xC00, "TELUGU SIGN ", ["COMBINING CANDRABINDU ABOVE|CANDRABINDU|ANUSVARA|VISARGA|COMBINING ANUSVARA ABOVE"]⟩,
  ⟨0xC05, "TELUGU LETTER ", ["A|AA|I|II|U|UU|VOCALIC R|VOCALIC L"]⟩,
  ⟨0xC0E, "TELUGU LETTER ", ["E|EE|AI"]⟩,
  ⟨0xC12, "TELUGU LETTER ", ["O|OO|AU|KA|KHA|GA|GHA|NGA|CA|CHA|JA|JHA|NYA|TTA|TTHA|DDA|DDHA|NNA|TA|THA|DA|DHA|NA"]⟩,
  ⟨0xC2A, "TELUGU LETTER ", ["PA|PHA|BA|BHA|MA|YA|RA|RRA|LA|LLA|LLLA|VA|SHA|SSA|SA|HA"]⟩,
  ⟨0xC3C, "TELUGU SIGN ", ["NUKTA|AVAGRAHA"]⟩,
  ⟨0xC3E, "TELUGU VOWEL SIGN ", ["AA|I|II|U|UU|VOCALIC R|VOCALIC RR"]⟩,
  ⟨0xC46, "TELUGU VOWEL SIGN ", ["E|EE|AI"]⟩,
  ⟨0xC4A, "TELUGU ", ["VOWEL SIGN O|VOWEL SIGN OO|VOWEL SIGN AU|SIGN VIRAMA"]⟩,
  ⟨0xC55, "TELUGU ", ["LENGTH MARK|AI LENGTH MARK"]⟩,
  ⟨0xC58, "TELUGU LETTER ", ["TSA|DZA|RRRA"]⟩,
  ⟨0xC5D, "TELUGU LETTER NAKAARA POLLU", [""]⟩,
  ⟨0xC60, "TELUGU LETTER VOCALIC ", ["RR|LL"]⟩,
  ⟨0xC62, "TELUGU VOWEL SIGN VOCALIC ", ["L|LL"]⟩,
  ⟨0xC66, "TELUGU DIGIT ", ["ZERO|ONE|TWO|THREE|FOUR|FIVE|SIX|SEVEN|EIGHT|NINE"]⟩,
  ⟨0xC77, "TELUGU SIGN SIDDHAM", [""]⟩,
  ⟨0xC78, "TELUGU FRACTION DIGIT ", [
    "ZERO FOR ODD POWERS OF FOUR|ONE FOR ODD POWERS OF FOUR|TWO FOR ODD POWERS OF FOUR|THREE FOR ODD POWERS OF FOUR",
    "ONE FOR EVEN POWERS OF FOUR|TWO FOR EVEN POWERS OF FOUR|THREE FOR EVEN POWERS OF FOUR"]⟩,
  ⟨0xC7F, "TELUGU SIGN TUUMU", [""]⟩,
  ⟨0xC80, "KANNADA SIGN ", ["SPACING CANDRABINDU|CANDRABINDU|ANUSVARA|VISARGA|SIDDHAM"]⟩,
  ⟨0xC85, "KANNADA LETTER ", ["A|AA|I|II|U|UU|VOCALIC R|VOCALIC L"]⟩,
  ⟨0xC8E, "KANNADA LETTER ", ["E|EE|AI"]⟩,
  ⟨0xC92, "KANNADA LETTER ", ["O|OO|AU|KA|KHA|GA|GHA|NGA|CA|CHA|JA|JHA|NYA|TTA|TTHA|DDA|DDHA|NNA|TA|THA|DA|DHA|NA"]⟩,
  ⟨0xCAA, "KANNADA LETTER ", ["PA|PHA|BA|BHA|MA|YA|RA|RRA|LA|LLA"]⟩,
  ⟨0xCB5, "KANNADA LETTER ", ["VA|SHA|SSA|SA|HA"]⟩,
  ⟨0xCBC, "KANNADA SIGN ", ["NUKTA|AVAGRAHA"]⟩,
  ⟨0xCBE, "KANNADA VOWEL SIGN ", ["AA|I|II|U|UU|VOCALIC R|VOCALIC RR"]⟩,
  ⟨0xCC6, "KANNADA VOWEL SIGN ", ["E|EE|AI"]⟩,
  ⟨0xCCA, "KANNADA ", ["VOWEL SIGN O|VOWEL SIGN OO|VOWEL SIGN AU|SIGN VIRAMA"]⟩,
  ⟨0xCD5, "KANNADA ", ["LENGTH MARK|AI LENGTH MARK"]⟩,
  ⟨0xCDD, "KANNADA LETTER ", ["NAKAARA POLLU|FA"]⟩,
  ⟨0xCE0, "KANNADA LETTER VOCALIC ", ["RR|LL"]⟩,
  ⟨0xCE2, "KANNADA VOWEL SIGN VOCALIC ", ["L|LL"]⟩,
  ⟨0xCE6, "KANNADA DIGIT ", ["ZERO|ONE|TWO|THREE|FOUR|FIVE|SIX|SEVEN|EIGHT|NINE"]⟩,
  ⟨0xCF1, "KANNADA SIGN ", ["JIHVAMULIYA|UPADHMANIYA"]⟩,
  ⟨0xD00, "MALAYALAM SIGN ", ["COMBINING ANUSVARA ABOVE|CANDRABINDU|ANUSVARA|VISARGA"]⟩,
  ⟨0xD04, "MALAYALAM LETTER ", ["VEDIC ANUSVARA|A|AA|I|II|U|UU|VOCALIC R|VOCALIC L"]⟩,
  ⟨0xD0E, "MALAYALAM LETTER ", ["E|EE|AI"]⟩,
  ⟨0xD12, "MALAYALAM LETTER ", [
    "O|OO|AU|KA|KHA|GA|GHA|NGA|CA|CHA|JA|JHA|NYA|TTA|TTHA|DDA|DDHA|NNA|TA|THA|DA|DHA|NA|NNNA|PA|PHA|BA|BHA|MA|YA|RA",
    "RRA|LA|LLA|LLLA|VA|SHA|SSA|SA|HA|TTTA"]⟩,
  ⟨0xD3B, "MALAYALAM SIGN ", ["VERTICAL BAR VIRAMA|CIRCULAR VIRAMA|AVAGRAHA"]⟩,
  ⟨0xD3E, "MALAYALAM VOWEL SIGN ", ["AA|I|II|U|UU|VOCALIC R|VOCALIC RR"]⟩,
  ⟨0xD46, "MALAYALAM VOWEL SIGN ", ["E|EE|AI"]⟩,
  ⟨0xD4A, "MALAYALAM ", ["VOWEL SIGN O|VOWEL SIGN OO|VOWEL SIGN AU|SIGN VIRAMA|LETTER DOT REPH|SIGN PARA"]⟩,
  ⟨0xD54, "MALAYALAM LETTER CHILLU ", ["M|Y|LLL"]⟩,
  ⟨0xD57, "MALAYALAM AU LENGTH MARK", [""]⟩,
  ⟨0xD58, "MALAYALAM FRACTION ", [
    "ONE ONE-HUNDRED-AND-SIXTIETH|ONE FORTIETH|THREE EIGHTIETHS|ONE TWENTIETH|ONE TENTH|THREE TWENTIETHS|ONE FIFTH"]⟩,
  ⟨0xD5F, "MALAYALAM LETTER ", ["ARCHAIC II|VOCALIC RR|VOCALIC LL"]⟩,
  ⟨0xD62, "MALAYALAM VOWEL SIGN VOCALIC ", ["L|LL"]⟩,
  ⟨0xD66, "MALAYALAM DIGIT ", ["ZERO|ONE|TWO|THREE|FOUR|FIVE|SIX|SEVEN|EIGHT|NINE"]⟩,
  ⟨0xD70, "MALAYALAM NUMBER ", ["TEN|ONE HUNDRED|ONE THOUSAND"]⟩,
  ⟨0xD73, "MALAYALAM FRACTION ", ["ONE QUARTER|ONE HALF|THREE QUARTERS|ONE SIXTEENTH|ONE EIGHTH|THREE SIXTEENTHS"]⟩,
  ⟨0xD79, "MALAYALAM DATE MARK", [""]⟩,
  ⟨0xD7A, "MALAYALAM LETTER CHILLU ", ["NN|N|RR|L|LL|K"]⟩,
  ⟨0xD81, "SINHALA SIGN ", ["CANDRABINDU|ANUSVARAYA|VISARGAYA"]⟩,
  ⟨0xD85, "SINHALA LETTER ", [
    "AYANNA|AAYANNA|AEYANNA|AEEYANNA|IYANNA|IIYANNA|UYANNA|UUYANNA|IRUYANNA|IRUUYANNA|ILUYANNA|ILUUYANNA|EYANNA",
    "EEYANNA|AIYANNA|OYANNA|OOYANNA|AUYANNA"]⟩,
  ⟨0xD9A, "SINHALA LETTER ", [
    "ALPAPRAANA KAYANNA|MAHAAPRAANA KAYANNA|ALPAPRAANA GAYANNA|MAHAAPRAANA GAYANNA|KANTAJA NAASIKYAYA",
    "SANYAKA GAYANNA|ALPAPRAANA CAYANNA|MAHAAPRAANA CAYANNA|ALPAPRAANA JAYANNA|MAHAAPRAANA JAYANNA",
    "TAALUJA NAASIKYAYA|TAALUJA SANYOOGA NAAKSIKYAYA|SANYAKA JAYANNA|ALPAPRAANA TTAYANNA|MAHAAPRAANA TTAYANNA",
    "ALPAPRAANA DDAYANNA|MAHAAPRAANA DDAYANNA|MUURDHAJA NAYANNA|SANYAKA DDAYANNA|ALPAPRAANA TAYANNA",
    "MAHAAPRAANA TAYANNA|ALPAPRAANA DAYANNA|MAHAAPRAANA DAYANNA|DANTAJA NAYANNA"]⟩,
  ⟨0xDB3, "SINHALA LETTER ", [
    "SANYAKA DAYANNA|ALPAPRAANA PAYANNA|MAHAAPRAANA PAYANNA|ALPAPRAANA BAYANNA|MAHAAPRAANA BAYANNA|MAYANNA",
    "AMBA BAYANNA|YAYANNA|RAYANNA"]⟩,
  ⟨0xDBD, "SINHALA LETTER DANTAJA LAYANNA", [""]⟩,
  ⟨0xDC0, "SINHALA LETTER ", [
    "VAYANNA|TAALUJA SAYANNA|MUURDHAJA SAYANNA|DANTAJA SAYANNA|HAYANNA|MUURDHAJA LAYANNA|FAYANNA"]⟩,
  ⟨0xDCA, "SINHALA SIGN AL-LAKUNA", [""]⟩,
  ⟨0xDCF, "SINHALA VOWEL SIGN ", [
    "AELA-PILLA|KETTI AEDA-PILLA|DIGA AEDA-PILLA|KETTI IS-PILLA|DIGA IS-PILLA|KETTI PAA-PILLA"]⟩,
  ⟨0xDD6, "SINHALA VOWEL SIGN DIGA PAA-PILLA", [""]⟩,
  ⟨0xDD8, "SINHALA VOWEL SIGN ", [
    "GAETTA-PILLA|KOMBUVA|DIGA KOMBUVA|KOMBU DEKA|KOMBUVA HAA AELA-PILLA|KOMBUVA HAA DIGA AELA-PILLA",
    "KOMBUVA HAA GAYANUKITTA|GAYANUKITTA"]⟩,
  ⟨0xDE6, "SINHALA LITH DIGIT ", ["ZERO|ONE|TWO|THREE|FOUR|FIVE|SIX|SEVEN|EIGHT|NINE"]⟩,
  ⟨0xDF2, "SINHALA ", ["VOWEL SIGN DIGA GAETTA-PILLA|VOWEL SIGN DIGA GAYANUKITTA|PUNCTUATION KUNDDALIYA"]⟩,
  ⟨0xE01, "THAI CHARACTER ", [
    "KO KAI|KHO KHAI|KHO KHUAT|KHO KHWAI|KHO KHON|KHO RAKHANG|NGO NGU|CHO CHAN|CHO CHING|CHO CHANG|SO SO|CHO CHOE",
    "YO YING|DO CHADA|TO PATAK|THO THAN|THO NANGMONTHO|THO PHUTHAO|NO NEN|DO DEK|TO TAO|THO THUNG|THO THAHAN",
    "THO THONG|NO NU|BO BAIMAI|PO PLA|PHO PHUNG|FO FA|PHO PHAN|FO FAN|PHO SAMPHAO|MO MA|YO YAK|RO RUA|RU|LO LING|LU",
    "WO WAEN|SO SALA|SO RUSI|SO SUA|HO HIP|LO CHULA|O ANG|HO NOKHUK|PAIYANNOI|SARA A|MAI HAN-AKAT|SARA AA|SARA AM",
    "SARA I|SARA II|SARA UE|SARA UEE|SARA U|SARA UU|PHINTHU"]⟩,
  ⟨0xE3F, "THAI CURRENCY SYMBOL BAHT", [""]⟩,
  ⟨0xE40, "THAI CHARACTER ", [
    "SARA E|SARA AE|SARA O|SARA AI MAIMUAN|SARA AI MAIMALAI|LAKKHANGYAO|MAIYAMOK|MAITAIKHU|MAI EK|MAI THO|MAI TRI",
    "MAI CHATTAWA|THANTHAKHAT|NIKHAHIT|YAMAKKAN|FONGMAN"]⟩,
  ⟨0xE50, "THAI DIGIT ", ["ZERO|ONE|TWO|THREE|FOUR|FIVE|SIX|SEVEN|EIGHT|NINE"]⟩,
  ⟨0xE5A, "THAI CHARACTER ", ["ANGKHANKHU|KHOMUT"]⟩,
  ⟨0xE81, "LAO LETTER ", ["KO|KHO SUNG"]⟩,
  ⟨0xE84, "LAO LETTER KHO TAM", [""]⟩,
  ⟨0xE86, "LAO LETTER ", ["PALI GHA|NGO|CO|PALI CHA|SO TAM"]⟩,
  ⟨0xE8C, "LAO LETTER ", [
    "PALI JHA|NYO|PALI NYA|PALI TTA|PALI TTHA|PALI DDA|PALI DDHA|PALI NNA|DO|TO|THO SUNG|THO TAM|PALI DHA|NO|BO|PO",
    "PHO SUNG|FO TAM|PHO TAM|FO SUNG|PALI BHA|MO|YO|LO LING"]⟩,
  ⟨0xEA5, "LAO LETTER LO LOOT", [""]⟩,
  ⟨0xEA7, "LAO LETTER ", ["WO|SANSKRIT SHA|SANSKRIT SSA|SO SUNG|HO SUNG|PALI LLA|O|HO TAM"]⟩,
  ⟨0xEAF, "LAO ELLIPSIS", [""]⟩,
  ⟨0xEB0, "LAO VOWEL SIGN ", ["A|MAI KAN|AA|AM|I|II|Y|YY|U|UU"]⟩,
  ⟨0xEBA, "LAO ", ["SIGN PALI VIRAMA|VOWEL SIGN MAI KON|SEMIVOWEL SIGN LO|SEMIVOWEL SIGN NYO"]⟩,
  ⟨0xEC0, "LAO VOWEL SIGN ", ["E|EI|O|AY|AI"]⟩,
  ⟨0xEC6, "LAO KO LA", [""]⟩,
  ⟨0xEC8, "LAO TONE MAI ", ["EK|THO|TI|CATAWA"]⟩,
  ⟨0xECC, "LAO ", ["CANCELLATION MARK|NIGGAHITA"]⟩,
  ⟨0xED0, "LAO DIGIT ", ["ZERO|ONE|TWO|THREE|FOUR|FIVE|SIX|SEVEN|EIGHT|NINE"]⟩,
  ⟨0xEDC, "LAO ", ["HO NO|HO MO|LETTER KHMU GO|LETTER KHMU NYO"]⟩,
  ⟨0xF00, "TIBETAN SYLLABLE OM", [""]⟩,
  ⟨0xF01, "TIBETAN MARK ", [
    "GTER YIG MGO TRUNCATED A|GTER YIG MGO -UM RNAM BCAD MA|GTER YIG MGO -UM GTER TSHEG MA|INITIAL YIG MGO MDUN MA",
    "CLOSING YIG MGO SGAB MA|CARET YIG MGO PHUR SHAD MA|YIG MGO TSHEG SHAD MA|SBRUL SHAD|BSKUR YIG MGO",
    "BKA- SHOG YIG MGO|INTERSYLLABIC TSHEG|DELIMITER TSHEG BSTAR|SHAD|NYIS SHAD|TSHEG SHAD|NYIS TSHEG SHAD",
    "RIN CHEN SPUNGS SHAD|RGYA GRAM SHAD|CARET -DZUD RTAGS ME LONG CAN|GTER TSHEG"]⟩,
  ⟨0xF15, "TIBETAN LOGOTYPE SIGN ", ["CHAD RTAGS|LHAG RTAGS"]⟩,
  ⟨0xF17, "TIBETAN ASTROLOGICAL SIGN ", ["SGRA GCAN -CHAR RTAGS|-KHYUD PA|SDONG TSHUGS"]⟩,
  ⟨0xF1A, "TIBETAN SIGN RDEL ", ["DKAR GCIG|DKAR GNYIS|DKAR GSUM|NAG GCIG|NAG GNYIS|DKAR RDEL NAG"]⟩,
  ⟨0xF20, "TIBETAN DIGIT ", ["ZERO|ONE|TWO|THREE|FOUR|FIVE|SIX|SEVEN|EIGHT|NINE"]⟩,
  ⟨0xF2A, "TIBETAN DIGIT HALF ", ["ONE|TWO|THREE|FOUR|FIVE|SIX|SEVEN|EIGHT|NINE|ZERO"]⟩,
  ⟨0xF34, "TIBETAN MARK ", [
    "BSDUS RTAGS|NGAS BZUNG NYI ZLA|CARET -DZUD RTAGS BZHI MIG CAN|NGAS BZUNG SGOR RTAGS|CHE MGO|TSA -PHRU",
    "GUG RTAGS GYON|GUG RTAGS GYAS|ANG KHANG GYON|ANG KHANG GYAS"]⟩,
  ⟨0xF3E, "TIBETAN SIGN ", ["YAR TSHES|MAR TSHES"]⟩,
  ⟨0xF40, "TIBETAN LETTER ", ["KA|KHA|GA|GHA|NGA|CA|CHA|JA"]⟩,
  ⟨0xF49, "TIBETAN LETTER ", [
    "NYA|TTA|TTHA|DDA|DDHA|NNA|TA|THA|DA|DHA|NA|PA|PHA|BA|BHA|MA|TSA|TSHA|DZA|DZHA|WA|ZHA|ZA|-A|YA|RA|LA|SHA|SSA|SA",
    "HA|A|KSSA|FIXED-FORM RA|KKA|RRA"]⟩,
  ⟨0xF71, "TIBETAN VOWEL SIGN ", ["AA|I|II|U|UU|VOCALIC R|VOCALIC RR|VOCALIC L|VOCALIC LL|E|EE|O|OO"]⟩,
  ⟨0xF7E, "TIBETAN ", [
    "SIGN RJES SU NGA RO|SIGN RNAM BCAD|VOWEL SIGN REVERSED I|VOWEL SIGN REVERSED II|SIGN NYI ZLA NAA DA",
    "SIGN SNA LDAN|MARK HALANTA|MARK PALUTA"]⟩,
  ⟨0xF86, "TIBETAN SIGN ", [
    "LCI RTAGS|YANG RTAGS|LCE TSA CAN|MCHU CAN|GRU CAN RGYINGS|GRU MED RGYINGS|INVERTED MCHU CAN"]⟩,
  ⟨0xF8D, "TIBETAN SUBJOINED SIGN ", ["LCE TSA CAN|MCHU CAN|INVERTED MCHU CAN"]⟩,
  ⟨0xF90, "TIBETAN SUBJOINED LETTER ", ["KA|KHA|GA|GHA|NGA|CA|CHA|JA"]⟩,
  ⟨0xF99, "TIBETAN SUBJOINED LETTER ", [
    "NYA|TTA|TTHA|DDA|DDHA|NNA|TA|THA|DA|DHA|NA|PA|PHA|BA|BHA|MA|TSA|TSHA|DZA|DZHA|WA|ZHA|ZA|-A|YA|RA|LA|SHA|SSA|SA",
    "HA|A|KSSA|FIXED-FORM WA|FIXED-FORM YA|FIXED-FORM RA"]⟩,
  ⟨0xFBE, "TIBETAN KU RU ", ["KHA|KHA BZHI MIG CAN"]⟩,
  ⟨0xFC0, "TIBETAN CANTILLATION SIGN ", ["HEAVY BEAT|LIGHT BEAT|CANG TE-U|SBUB -CHAL"]⟩,
  ⟨0xFC4, "TIBETAN SYMBOL ", [
    "DRIL BU|RDO RJE|PADMA GDAN|RDO RJE RGYA GRAM|PHUR PA|NOR BU|NOR BU NYIS -KHYIL|NOR BU GSUM -KHYIL",
    "NOR BU BZHI -KHYIL"]⟩,
  ⟨0xFCE, "TIBETAN SIGN RDEL NAG ", ["RDEL DKAR|GSUM"]⟩,
  ⟨0xFD0, "TIBETAN MARK ", [
    "BSKA- SHOG GI MGO RGYAN|MNYAM YIG GI MGO RGYAN|NYIS TSHEG|INITIAL BRDA RNYING YIG MGO MDUN MA",
    "CLOSING BRDA RNYING YIG MGO SGAB MA"]⟩,
  ⟨0xFD5, "", [
    "RIGHT-FACING SVASTI SIGN|LEFT-FACING SVASTI SIGN|RIGHT-FACING SVASTI SIGN WITH DOTS",
    "LEFT-FACING SVASTI SIGN WITH DOTS|TIBETAN MARK LEADING MCHAN RTAGS|TIBETAN MARK TRAILING MCHAN RTAGS"]⟩]

/-- From U+1000 to U+17FF. -/
def from1000 : List NameRun := [
  ⟨0x1000, "MYANMAR LETTER ", [
    "KA|KHA|GA|GHA|NGA|CA|CHA|JA|JHA|NYA|NNYA|TTA|TTHA|DDA|DDHA|NNA|TA|THA|DA|DHA|NA|PA|PHA|BA|BHA|MA|YA|RA|LA|WA",
    "SA|HA|LLA|A|SHAN A|I|II|U|UU|E|MON E|O|AU"]⟩,
  ⟨0x102B, "MYANMAR VOWEL SIGN ", ["TALL AA|AA|I|II|U|UU|E|AI|MON II|MON O|E ABOVE"]⟩,
  ⟨0x1036, "MYANMAR SIGN ", ["ANUSVARA|DOT BELOW|VISARGA|VIRAMA|ASAT"]⟩,
  ⟨0x103B, "MYANMAR CONSONANT SIGN MEDIAL ", ["YA|RA|WA|HA"]⟩,
  ⟨0x103F, "MYANMAR LETTER GREAT SA", [""]⟩,
  ⟨0x1040, "MYANMAR DIGIT ", ["ZERO|ONE|TWO|THREE|FOUR|FIVE|SIX|SEVEN|EIGHT|NINE"]⟩,
  ⟨0x104A, "MYANMAR ", [
    "SIGN LITTLE SECTION|SIGN SECTION|SYMBOL LOCATIVE|SYMBOL COMPLETED|SYMBOL AFOREMENTIONED|SYMBOL GENITIVE",
    "LETTER SHA|LETTER SSA"]⟩,
  ⟨0x1052, "MYANMAR LETTER VOCALIC ", ["R|RR|L|LL"]⟩,
  ⟨0x1056, "MYANMAR VOWEL SIGN VOCALIC ", ["R|RR|L|LL"]⟩,
  ⟨0x105A, "MYANMAR LETTER MON ", ["NGA|JHA|BBA|BBE"]⟩,
  ⟨0x105E, "MYANMAR CONSONANT SIGN MON MEDIAL ", ["NA|MA|LA"]⟩,
  ⟨0x1061, "MYANMAR ", [
    "LETTER SGAW KAREN SHA|VOWEL SIGN SGAW KAREN EU|TONE MARK SGAW KAREN HATHI|TONE MARK SGAW KAREN KE PHO"]⟩,
  ⟨0x1065, "MYANMAR LETTER WESTERN PWO KAREN ", ["THA|PWA"]⟩,
  ⟨0x1067, "MYANMAR VOWEL SIGN WESTERN PWO KAREN ", ["EU|UE"]⟩,
  ⟨0x1069, "MYANMAR SIGN WESTERN PWO KAREN TONE-", ["1|2|3|4|5"]⟩,
  ⟨0x106E, "MYANMAR LETTER EASTERN PWO KAREN ", ["NNA|YWA|GHWA"]⟩,
  ⟨0x1071, "MYANMAR VOWEL SIGN ", ["GEBA KAREN I|KAYAH OE|KAYAH U|KAYAH EE"]⟩,
  ⟨0x1075, "MYANMAR LETTER SHAN ", ["KA|KHA|GA|CA|ZA|NYA|DA|NA|PHA|FA|BA|THA|HA"]⟩,
  ⟨0x1082, "MYANMAR CONSONANT SIGN SHAN MEDIAL WA", [""]⟩,
  ⟨0x1083, "MYANMAR VOWEL SIGN SHAN ", ["AA|E|E ABOVE|FINAL Y"]⟩,
  ⟨0x1087, "MYANMAR SIGN SHAN ", ["TONE-2|TONE-3|TONE-5|TONE-6|COUNCIL TONE-2|COUNCIL TONE-3|COUNCIL EMPHATIC TONE"]⟩,
  ⟨0x108E, "MYANMAR ", ["LETTER RUMAI PALAUNG FA|SIGN RUMAI PALAUNG TONE-5"]⟩,
  ⟨0x1090, "MYANMAR SHAN DIGIT ", ["ZERO|ONE|TWO|THREE|FOUR|FIVE|SIX|SEVEN|EIGHT|NINE"]⟩,
  ⟨0x109A, "MYANMAR ", [
    "SIGN KHAMTI TONE-1|SIGN KHAMTI TONE-3|VOWEL SIGN AITON A|VOWEL SIGN AITON AI|SYMBOL SHAN ONE",
    "SYMBOL SHAN EXCLAMATION"]⟩,
  ⟨0x10A0, "GEORGIAN CAPITAL LETTER ", [
    "AN|BAN|GAN|DON|EN|VIN|ZEN|TAN|IN|KAN|LAS|MAN|NAR|ON|PAR|ZHAR|RAE|SAN|TAR|UN|PHAR|KHAR|GHAN|QAR|SHIN|CHIN|CAN",
    "JIL|CIL|CHAR|XAN|JHAN|HAE|HE|HIE|WE|HAR|HOE"]⟩,
  ⟨0x10C7, "GEORGIAN CAPITAL LETTER YN", [""]⟩,
  ⟨0x10CD, "GEORGIAN CAPITAL LETTER AEN", [""]⟩,
  ⟨0x10D0, "GEORGIAN LETTER ", [
    "AN|BAN|GAN|DON|EN|VIN|ZEN|TAN|IN|KAN|LAS|MAN|NAR|ON|PAR|ZHAR|RAE|SAN|TAR|UN|PHAR|KHAR|GHAN|QAR|SHIN|CHIN|CAN",
    "JIL|CIL|CHAR|XAN|JHAN|HAE|HE|HIE|WE|HAR|HOE|FI|YN|ELIFI|TURNED GAN|AIN"]⟩,
  ⟨0x10FB, "", ["GEORGIAN PARAGRAPH SEPARATOR|MODIFIER LETTER GEORGIAN NAR"]⟩,
  ⟨0x10FD, "GEORGIAN LETTER ", ["AEN|HARD SIGN|LABIAL SIGN"]⟩,
  ⟨0x1100, "HANGUL CHOSEONG ", [
    "KIYEOK|SSANGKIYEOK|NIEUN|TIKEUT|SSANGTIKEUT|RIEUL|MIEUM|PIEUP|SSANGPIEUP|SIOS|SSANGSIOS|IEUNG|CIEUC|SSANGCIEUC",
    "CHIEUCH|KHIEUKH|THIEUTH|PHIEUPH|HIEUH|NIEUN-KIYEOK|SSANGNIEUN|NIEUN-TIKEUT|NIEUN-PIEUP|TIKEUT-KIYEOK",
    "RIEUL-NIEUN|SSANGRIEUL|RIEUL-HIEUH|KAPYEOUNRIEUL|MIEUM-PIEUP|KAPYEOUNMIEUM"]⟩,
  ⟨0x111E, "HANGUL CHOSEONG PIEUP-", [
    "KIYEOK|NIEUN|TIKEUT|SIOS|SIOS-KIYEOK|SIOS-TIKEUT|SIOS-PIEUP|SSANGSIOS|SIOS-CIEUC|CIEUC|CHIEUCH|THIEUTH|PHIEUPH"]⟩,
  ⟨0x112B, "HANGUL CHOSEONG ", ["KAPYEOUNPIEUP|KAPYEOUNSSANGPIEUP"]⟩,
  ⟨0x112D, "HANGUL CHOSEONG SIOS-", [
    "KIYEOK|NIEUN|TIKEUT|RIEUL|MIEUM|PIEUP|PIEUP-KIYEOK|SSANGSIOS|IEUNG|CIEUC|CHIEUCH|KHIEUKH|THIEUTH|PHIEUPH|HIEUH"]⟩,
  ⟨0x113C, "HANGUL CHOSEONG ", [
    "CHITUEUMSIOS|CHITUEUMSSANGSIOS|CEONGCHIEUMSIOS|CEONGCHIEUMSSANGSIOS|PANSIOS|IEUNG-KIYEOK|IEUNG-TIKEUT",
    "IEUNG-MIEUM|IEUNG-PIEUP|IEUNG-SIOS|IEUNG-PANSIOS|SSANGIEUNG|IEUNG-CIEUC|IEUNG-CHIEUCH|IEUNG-THIEUTH",
    "IEUNG-PHIEUPH|YESIEUNG|CIEUC-IEUNG|CHITUEUMCIEUC|CHITUEUMSSANGCIEUC|CEONGCHIEUMCIEUC|CEONGCHIEUMSSANGCIEUC",
    "CHIEUCH-KHIEUKH|CHIEUCH-HIEUH|CHITUEUMCHIEUCH|CEONGCHIEUMCHIEUCH|PHIEUPH-PIEUP|KAPYEOUNPHIEUPH|SSANGHIEUH",
    "YEORINHIEUH|KIYEOK-TIKEUT|NIEUN-SIOS|NIEUN-CIEUC|NIEUN-HIEUH|TIKEUT-RIEUL|FILLER"]⟩,
  ⟨0x1160, "HANGUL JUNGSEONG ", [
    "FILLER|A|AE|YA|YAE|EO|E|YEO|YE|O|WA|WAE|OE|YO|U|WEO|WE|WI|YU|EU|YI|I|A-O|A-U|YA-O|YA-YO|EO-O|EO-U|EO-EU|YEO-O",
    "YEO-U|O-EO|O-E|O-YE|O-O|O-U|YO-YA|YO-YAE|YO-YEO|YO-O|YO-I|U-A|U-AE|U-EO-EU|U-YE|U-U|YU-A|YU-EO|YU-E|YU-YEO",
    "YU-YE|YU-U|YU-I|EU-U|EU-EU|YI-U|I-A|I-YA|I-O|I-U|I-EU|I-ARAEA|ARAEA|ARAEA-EO|ARAEA-U|ARAEA-I|SSANGARAEA|A-EU",
    "YA-U|YEO-YA|O-YA|O-YAE"]⟩,
  ⟨0x11A8, "HANGUL JONGSEONG ", [
    "KIYEOK|SSANGKIYEOK|KIYEOK-SIOS|NIEUN|NIEUN-CIEUC|NIEUN-HIEUH|TIKEUT|RIEUL|RIEUL-KIYEOK|RIEUL-MIEUM|RIEUL-PIEUP",
    "RIEUL-SIOS|RIEUL-THIEUTH|RIEUL-PHIEUPH|RIEUL-HIEUH|MIEUM|PIEUP|PIEUP-SIOS|SIOS|SSANGSIOS|IEUNG|CIEUC|CHIEUCH",
    "KHIEUKH|THIEUTH|PHIEUPH|HIEUH|KIYEOK-RIEUL|KIYEOK-SIOS-KIYEOK|NIEUN-KIYEOK|NIEUN-TIKEUT|NIEUN-SIOS",
    "NIEUN-PANSIOS|NIEUN-THIEUTH|TIKEUT-KIYEOK|TIKEUT-RIEUL|RIEUL-KIYEOK-SIOS|RIEUL-NIEUN|RIEUL-TIKEUT",
    "RIEUL-TIKEUT-HIEUH|SSANGRIEUL|RIEUL-MIEUM-KIYEOK|RIEUL-MIEUM-SIOS|RIEUL-PIEUP-SIOS|RIEUL-PIEUP-HIEUH",
    "RIEUL-KAPYEOUNPIEUP|RIEUL-SSANGSIOS|RIEUL-PANSIOS|RIEUL-KHIEUKH|RIEUL-YEORINHIEUH|MIEUM-KIYEOK|MIEUM-RIEUL",
    "MIEUM-PIEUP|MIEUM-SIOS|MIEUM-SSANGSIOS|MIEUM-PANSIOS|MIEUM-CHIEUCH|MIEUM-HIEUH|KAPYEOUNMIEUM|PIEUP-RIEUL",
    "PIEUP-PHIEUPH|PIEUP-HIEUH|KAPYEOUNPIEUP|SIOS-KIYEOK|SIOS-TIKEUT|SIOS-RIEUL|SIOS-PIEUP|PANSIOS|IEUNG-KIYEOK",
    "IEUNG-SSANGKIYEOK|SSANGIEUNG|IEUNG-KHIEUKH|YESIEUNG|YESIEUNG-SIOS|YESIEUNG-PANSIOS|PHIEUPH-PIEUP",
    "KAPYEOUNPHIEUPH|HIEUH-NIEUN|HIEUH-RIEUL|HIEUH-MIEUM|HIEUH-PIEUP|YEORINHIEUH|KIYEOK-NIEUN|KIYEOK-PIEUP",
    "KIYEOK-CHIEUCH|KIYEOK-KHIEUKH|KIYEOK-HIEUH|SSANGNIEUN"]⟩,
  ⟨0x1200, "ETHIOPIC SYLLABLE ", [
    "HA|HU|HI|HAA|HEE|HE|HO|HOA|LA|LU|LI|LAA|LEE|LE|LO|LWA|HHA|HHU|HHI|HHAA|HHEE|HHE|HHO|HHWA|MA|MU|MI|MAA|MEE|ME",
    "MO|MWA|SZA|SZU|SZI|SZAA|SZEE|SZE|SZO|SZWA|RA|RU|RI|RAA|REE|RE|RO|RWA|SA|SU|SI|SAA|SEE|SE|SO|SWA|SHA|SHU|SHI",
    "SHAA|SHEE|SHE|SHO|SHWA|QA|QU|QI|QAA|QEE|QE|QO|QOA|QWA"]⟩,
  ⟨0x124A, "ETHIOPIC SYLLABLE ", ["QWI|QWAA|QWEE|QWE"]⟩,
  ⟨0x1250, "ETHIOPIC SYLLABLE ", ["QHA|QHU|QHI|QHAA|QHEE|QHE|QHO"]⟩,
  ⟨0x1258, "ETHIOPIC SYLLABLE QHWA", [""]⟩,
  ⟨0x125A, "ETHIOPIC SYLLABLE ", ["QHWI|QHWAA|QHWEE|QHWE"]⟩,
  ⟨0x1260, "ETHIOPIC SYLLABLE ", [
    "BA|BU|BI|BAA|BEE|BE|BO|BWA|VA|VU|VI|VAA|VEE|VE|VO|VWA|TA|TU|TI|TAA|TEE|TE|TO|TWA|CA|CU|CI|CAA|CEE|CE|CO|CWA|XA",
    "XU|XI|XAA|XEE|XE|XO|XOA|XWA"]⟩,
  ⟨0x128A, "ETHIOPIC SYLLABLE ", ["XWI|XWAA|XWEE|XWE"]⟩,
  ⟨0x1290, "ETHIOPIC SYLLABLE ", [
    "NA|NU|NI|NAA|NEE|NE|NO|NWA|NYA|NYU|NYI|NYAA|NYEE|NYE|NYO|NYWA|GLOTTAL A|GLOTTAL U|GLOTTAL I|GLOTTAL AA",
    "GLOTTAL EE|GLOTTAL E|GLOTTAL O|GLOTTAL WA|KA|KU|KI|KAA|KEE|KE|KO|KOA|KWA"]⟩,
  ⟨0x12B2, "ETHIOPIC SYLLABLE ", ["KWI|KWAA|KWEE|KWE"]⟩,
  ⟨0x12B8, "ETHIOPIC SYLLABLE ", ["KXA|KXU|KXI|KXAA|KXEE|KXE|KXO"]⟩,
  ⟨0x12C0, "ETHIOPIC SYLLABLE KXWA", [""]⟩,
  ⟨0x12C2, "ETHIOPIC SYLLABLE ", ["KXWI|KXWAA|KXWEE|KXWE"]⟩,
  ⟨0x12C8, "ETHIOPIC SYLLABLE ", ["WA|WU|WI|WAA|WEE|WE|WO|WOA"]⟩,
  ⟨0x12D0, "ETHIOPIC SYLLABLE PHARYNGEAL ", ["A|U|I|AA|EE|E|O"]⟩,
  ⟨0x12D8, "ETHIOPIC SYLLABLE ", [
    "ZA|ZU|ZI|ZAA|ZEE|ZE|ZO|ZWA|ZHA|ZHU|ZHI|ZHAA|ZHEE|ZHE|ZHO|ZHWA|YA|YU|YI|YAA|YEE|YE|YO|YOA|DA|DU|DI|DAA|DEE|DE",
    "DO|DWA|DDA|DDU|DDI|DDAA|DDEE|DDE|DDO|DDWA|JA|JU|JI|JAA|JEE|JE|JO|JWA|GA|GU|GI|GAA|GEE|GE|GO|GOA|GWA"]⟩,
  ⟨0x1312, "ETHIOPIC SYLLABLE ", ["GWI|GWAA|GWEE|GWE"]⟩,
  ⟨0x1318, "ETHIOPIC SYLLABLE ", [
    "GGA|GGU|GGI|GGAA|GGEE|GGE|GGO|GGWAA|THA|THU|THI|THAA|THEE|THE|THO|THWA|CHA|CHU|CHI|CHAA|CHEE|CHE|CHO|CHWA|PHA",
    "PHU|PHI|PHAA|PHEE|PHE|PHO|PHWA|TSA|TSU|TSI|TSAA|TSEE|TSE|TSO|TSWA|TZA|TZU|TZI|TZAA|TZEE|TZE|TZO|TZOA|FA|FU|FI",
    "FAA|FEE|FE|FO|FWA|PA|PU|PI|PAA|PEE|PE|PO|PWA|RYA|MYA|FYA"]⟩,
  ⟨0x135D, "ETHIOPIC ", [
    "COMBINING GEMINATION AND VOWEL LENGTH MARK|COMBINING VOWEL LENGTH MARK|COMBINING GEMINATION MARK|SECTION MARK",
    "WORDSPACE|FULL STOP|COMMA|SEMICOLON|COLON|PREFACE COLON|QUESTION MARK|PARAGRAPH SEPARATOR"]⟩,
  ⟨0x1369, "ETHIOPIC DIGIT ", ["ONE|TWO|THREE|FOUR|FIVE|SIX|SEVEN|EIGHT|NINE"]⟩,
  ⟨0x1372, "ETHIOPIC NUMBER ", ["TEN|TWENTY|THIRTY|FORTY|FIFTY|SIXTY|SEVENTY|EIGHTY|NINETY|HUNDRED|TEN THOUSAND"]⟩,
  ⟨0x1380, "ETHIOPIC SYLLABLE ", [
    "SEBATBEIT MWA|MWI|MWEE|MWE|SEBATBEIT BWA|BWI|BWEE|BWE|SEBATBEIT FWA|FWI|FWEE|FWE|SEBATBEIT PWA|PWI|PWEE|PWE"]⟩,
  ⟨0x1390, "ETHIOPIC TONAL MARK ", ["YIZET|DERET|RIKRIK|SHORT RIKRIK|DIFAT|KENAT|CHIRET|HIDET|DERET-HIDET|KURT"]⟩,
  ⟨0x13A0, "CHEROKEE LETTER ", [
    "A|E|I|O|U|V|GA|KA|GE|GI|GO|GU|GV|HA|HE|HI|HO|HU|HV|LA|LE|LI|LO|LU|LV|MA|ME|MI|MO|MU|NA|HNA|NAH|NE|NI|NO|NU|NV",
    "QUA|QUE|QUI|QUO|QUU|QUV|SA|S|SE|SI|SO|SU|SV|DA|TA|DE|TE|DI|TI|DO|DU|DV|DLA|TLA|TLE|TLI|TLO|TLU|TLV|TSA|TSE|TSI",
    "TSO|TSU|TSV|WA|WE|WI|WO|WU|WV|YA|YE|YI|YO|YU|YV|MV"]⟩,
  ⟨0x13F8, "CHEROKEE SMALL LETTER ", ["YE|YI|YO|YU|YV|MV"]⟩,
  ⟨0x1400, "CANADIAN SYLLABICS ", [
    "HYPHEN|E|AAI|I|II|O|OO|Y-CREE OO|CARRIER EE|CARRIER I|A|AA|WE|WEST-CREE WE|WI|WEST-CREE WI|WII|WEST-CREE WII",
    "WO|WEST-CREE WO|WOO|WEST-CREE WOO|NASKAPI WOO|WA|WEST-CREE WA|WAA|WEST-CREE WAA|NASKAPI WAA|AI|Y-CREE W",
    "GLOTTAL STOP"]⟩,
  ⟨0x141F, "CANADIAN SYLLABICS FINAL ", [
    "ACUTE|GRAVE|BOTTOM HALF RING|TOP HALF RING|RIGHT HALF RING|RING|DOUBLE ACUTE|DOUBLE SHORT VERTICAL STROKES",
    "MIDDLE DOT|SHORT HORIZONTAL STROKE|PLUS|DOWN TACK"]⟩,
  ⟨0x142B, "CANADIAN SYLLABICS ", [
    "EN|IN|ON|AN|PE|PAAI|PI|PII|PO|POO|Y-CREE POO|CARRIER HEE|CARRIER HI|PA|PAA|PWE|WEST-CREE PWE|PWI|WEST-CREE PWI",
    "PWII|WEST-CREE PWII|PWO|WEST-CREE PWO|PWOO|WEST-CREE PWOO|PWA|WEST-CREE PWA|PWAA|WEST-CREE PWAA|Y-CREE PWAA|P",
    "WEST-CREE P|CARRIER H|TE|TAAI|TI|TII|TO|TOO|Y-CREE TOO|CARRIER DEE|CARRIER DI|TA|TAA|TWE|WEST-CREE TWE|TWI",
    "WEST-CREE TWI|TWII|WEST-CREE TWII|TWO|WEST-CREE TWO|TWOO|WEST-CREE TWOO|TWA|WEST-CREE TWA|TWAA|WEST-CREE TWAA",
    "NASKAPI TWAA|T|TTE|TTI|TTO|TTA|KE|KAAI|KI|KII|KO|KOO|Y-CREE KOO|KA|KAA|KWE|WEST-CREE KWE|KWI|WEST-CREE KWI",
    "KWII|WEST-CREE KWII|KWO|WEST-CREE KWO|KWOO|WEST-CREE KWOO|KWA|WEST-CREE KWA|KWAA|WEST-CREE KWAA|NASKAPI KWAA|K",
    "KW|SOUTH-SLAVEY KEH|SOUTH-SLAVEY KIH|SOUTH-SLAVEY KOH|SOUTH-SLAVEY KAH|CE|CAAI|CI|CII|CO|COO|Y-CREE COO|CA|CAA",
    "CWE|WEST-CREE CWE|CWI|WEST-CREE CWI|CWII|WEST-CREE CWII|CWO|WEST-CREE CWO|CWOO|WEST-CREE CWOO|CWA",
    "WEST-CREE CWA|CWAA|WEST-CREE CWAA|NASKAPI CWAA|C|SAYISI TH|ME|MAAI|MI|MII|MO|MOO|Y-CREE MOO|MA|MAA|MWE",
    "WEST-CREE MWE|MWI|WEST-CREE MWI|MWII|WEST-CREE MWII|MWO|WEST-CREE MWO|MWOO|WEST-CREE MWOO|MWA|WEST-CREE MWA",
    "MWAA|WEST-CREE MWAA|NASKAPI MWAA|M|WEST-CREE M|MH|ATHAPASCAN M|SAYISI M|NE|NAAI|NI|NII|NO|NOO|Y-CREE NOO|NA",
    "NAA|NWE|WEST-CREE NWE|NWA|WEST-CREE NWA|NWAA|WEST-CREE NWAA|NASKAPI NWAA|N|CARRIER NG|NH|LE|LAAI|LI|LII|LO|LOO",
    "Y-CREE LOO|LA|LAA|LWE|WEST-CREE LWE|LWI|WEST-CREE LWI|LWII|WEST-CREE LWII|LWO|WEST-CREE LWO|LWOO",
    "WEST-CREE LWOO|LWA|WEST-CREE LWA|LWAA|WEST-CREE LWAA|L|WEST-CREE L|MEDIAL L|SE|SAAI|SI|SII|SO|SOO|Y-CREE SOO",
    "SA|SAA|SWE|WEST-CREE SWE|SWI|WEST-CREE SWI|SWII|WEST-CREE SWII|SWO|WEST-CREE SWO|SWOO|WEST-CREE SWOO|SWA",
    "WEST-CREE SWA|SWAA|WEST-CREE SWAA|NASKAPI SWAA|S|ATHAPASCAN S|SW|BLACKFOOT S|MOOSE-CREE SK|NASKAPI SKW",
    "NASKAPI S-W|NASKAPI SPWA|NASKAPI STWA|NASKAPI SKWA|NASKAPI SCWA|SHE|SHI|SHII|SHO|SHOO|SHA|SHAA|SHWE",
    "WEST-CREE SHWE|SHWI|WEST-CREE SHWI|SHWII|WEST-CREE SHWII|SHWO|WEST-CREE SHWO|SHWOO|WEST-CREE SHWOO|SHWA",
    "WEST-CREE SHWA|SHWAA|WEST-CREE SHWAA|SH|YE|YAAI|YI|YII|YO|YOO|Y-CREE YOO|YA|YAA|YWE|WEST-CREE YWE|YWI",
    "WEST-CREE YWI|YWII|WEST-CREE YWII|YWO|WEST-CREE YWO|YWOO|WEST-CREE YWOO|YWA|WEST-CREE YWA|YWAA|WEST-CREE YWAA",
    "NASKAPI YWAA|Y|BIBLE-CREE Y|WEST-CREE Y|SAYISI YI|RE|R-CREE RE|WEST-CREE LE|RAAI|RI|RII|RO|ROO|WEST-CREE LO|RA",
    "RAA|WEST-CREE LA|RWAA|WEST-CREE RWAA|R|WEST-CREE R|MEDIAL R|FE|FAAI|FI|FII|FO|FOO|FA|FAA|FWAA|WEST-CREE FWAA|F",
    "THE|N-CREE THE|THI|N-CREE THI|THII|N-CREE THII|THO|THOO|THA|THAA|THWAA|WEST-CREE THWAA|TH|TTHE|TTHI|TTHO|TTHA",
    "TTH|TYE|TYI|TYO|TYA|NUNAVIK HE|NUNAVIK HI|NUNAVIK HII|NUNAVIK HO|NUNAVIK HOO|NUNAVIK HA|NUNAVIK HAA|NUNAVIK H",
    "NUNAVUT H|HK|QAAI|QI|QII|QO|QOO|QA|QAA|Q|TLHE|TLHI|TLHO|TLHA|WEST-CREE RE|WEST-CREE RI|WEST-CREE RO",
    "WEST-CREE RA|NGAAI|NGI|NGII|NGO|NGOO|NGA|NGAA|NG|NNG|SAYISI SHE|SAYISI SHI|SAYISI SHO|SAYISI SHA",
    "WOODS-CREE THE|WOODS-CREE THI|WOODS-CREE THO|WOODS-CREE THA|WOODS-CREE TH|LHI|LHII|LHO|LHOO|LHA|LHAA|LH",
    "TH-CREE THE|TH-CREE THI|TH-CREE THII|TH-CREE THO|TH-CREE THOO|TH-CREE THA|TH-CREE THAA|TH-CREE TH|AIVILIK B"]⟩,
  ⟨0x15B0, "CANADIAN SYLLABICS BLACKFOOT ", ["E|I|O|A|WE|WI|WO|WA|NE|NI|NO|NA|KE|KI|KO|KA"]⟩,
  ⟨0x15C0, "CANADIAN SYLLABICS SAYISI ", ["HE|HI|HO|HA"]⟩,
  ⟨0x15C4, "CANADIAN SYLLABICS CARRIER ", [
    "GHU|GHO|GHE|GHEE|GHI|GHA|RU|RO|RE|REE|RI|RA|WU|WO|WE|WEE|WI|WA|HWU|HWO|HWE|HWEE|HWI|HWA|THU|THO|THE|THEE|THI",
    "THA|TTU|TTO|TTE|TTEE|TTI|TTA|PU|PO|PE|PEE|PI|PA|P|GU|GO|GE|GEE|GI|GA|KHU|KHO|KHE|KHEE|KHI|KHA|KKU|KKO|KKE|KKEE",
    "KKI|KKA|KK|NU|NO|NE|NEE|NI|NA|MU|MO|ME|MEE|MI|MA|YU|YO|YE|YEE|YI|YA|JU"]⟩,
  ⟨0x1615, "CANADIAN SYLLABICS ", ["SAYISI JU|CARRIER JO|CARRIER JE|CARRIER JEE|CARRIER JI|SAYISI JI"]⟩,
  ⟨0x161B, "CANADIAN SYLLABICS CARRIER ", [
    "JA|JJU|JJO|JJE|JJEE|JJI|JJA|LU|LO|LE|LEE|LI|LA|DLU|DLO|DLE|DLEE|DLI|DLA|LHU|LHO|LHE|LHEE|LHI|LHA|TLHU|TLHO",
    "TLHE|TLHEE|TLHI|TLHA|TLU|TLO|TLE|TLEE|TLI|TLA|ZU|ZO|ZE|ZEE|ZI|ZA|Z|INITIAL Z|DZU|DZO|DZE|DZEE|DZI|DZA|SU|SO|SE",
    "SEE|SI|SA|SHU|SHO|SHE|SHEE|SHI|SHA|SH|TSU|TSO|TSE|TSEE|TSI|TSA|CHU|CHO|CHE|CHEE|CHI|CHA|TTSU|TTSO|TTSE|TTSEE",
    "TTSI|TTSA"]⟩,
  ⟨0x166D, "CANADIAN SYLLABICS ", ["CHI SIGN|FULL STOP|QAI|NGAI|NNGI|NNGII|NNGO|NNGOO|NNGA|NNGAA"]⟩,
  ⟨0x1677, "CANADIAN SYLLABICS WOODS-CREE ", ["THWEE|THWI|THWII|THWO|THWOO|THWA|THWAA|FINAL TH"]⟩,
  ⟨0x167F, "", ["CANADIAN SYLLABICS BLACKFOOT W|OGHAM SPACE MARK"]⟩,
  ⟨0x1681, "OGHAM LETTER ", [
    "BEITH|LUIS|FEARN|SAIL|NION|UATH|DAIR|TINNE|COLL|CEIRT|MUIN|GORT|NGEADAL|STRAIF|RUIS|AILM|ONN|UR|EADHADH",
    "IODHADH|EABHADH|OR|UILLEANN|IFIN|EAMHANCHOLL|PEITH"]⟩,
  ⟨0x169B, "OGHAM ", ["FEATHER MARK|REVERSED FEATHER MARK"]⟩,
  ⟨0x16A0, "RUNIC LETTER ", [
    "FEHU FEOH FE F|V|URUZ UR U|YR|Y|W|THURISAZ THURS THORN|ETH|ANSUZ A|OS O|AC A|AESC|LONG-BRANCH-OSS O",
    "SHORT-TWIG-OSS O|O|OE|ON|RAIDO RAD REID R|KAUNA|CEN|KAUN K|G|ENG|GEBO GYFU G|GAR|WUNJO WYNN W|HAGLAZ H|HAEGL H",
    "LONG-BRANCH-HAGALL H|SHORT-TWIG-HAGALL H|NAUDIZ NYD NAUD N|SHORT-TWIG-NAUD N|DOTTED-N|ISAZ IS ISS I|E|JERAN J",
    "GER|LONG-BRANCH-AR AE|SHORT-TWIG-AR A|IWAZ EOH|PERTHO PEORTH P|ALGIZ EOLHX|SOWILO S|SIGEL LONG-BRANCH-SOL S",
    "SHORT-TWIG-SOL S|C|Z|TIWAZ TIR TYR T|SHORT-TWIG-TYR T|D|BERKANAN BEORC BJARKAN B|SHORT-TWIG-BJARKAN B|DOTTED-P",
    "OPEN-P|EHWAZ EH E|MANNAZ MAN M|LONG-BRANCH-MADR M|SHORT-TWIG-MADR M|LAUKAZ LAGU LOGR L|DOTTED-L|INGWAZ|ING",
    "DAGAZ DAEG D|OTHALAN ETHEL O|EAR|IOR|CWEORTH|CALC|CEALC|STAN|LONG-BRANCH-YR|SHORT-TWIG-YR|ICELANDIC-YR|Q|X"]⟩,
  ⟨0x16EB, "RUNIC ", [
    "SINGLE PUNCTUATION|MULTIPLE PUNCTUATION|CROSS PUNCTUATION|ARLAUG SYMBOL|TVIMADUR SYMBOL|BELGTHOR SYMBOL",
    "LETTER K|LETTER SH|LETTER OO"]⟩,
  ⟨0x16F4, "RUNIC LETTER FRANKS CASKET ", ["OS|IS|EH|AC|AESC"]⟩,
  ⟨0x1700, "TAGALOG LETTER ", ["A|I|U|KA|GA|NGA|TA|DA|NA|PA|BA|MA|YA|RA|LA|WA|SA|HA"]⟩,
  ⟨0x1712, "TAGALOG ", ["VOWEL SIGN I|VOWEL SIGN U|SIGN VIRAMA|SIGN PAMUDPOD"]⟩,
  ⟨0x171F, "TAGALOG LETTER ARCHAIC RA", [""]⟩,
  ⟨0x1720, "HANUNOO LETTER ", ["A|I|U|KA|GA|NGA|TA|DA|NA|PA|BA|MA|YA|RA|LA|WA|SA|HA"]⟩,
  ⟨0x1732, "HANUNOO ", ["VOWEL SIGN I|VOWEL SIGN U|SIGN PAMUDPOD"]⟩,
  ⟨0x1735, "PHILIPPINE ", ["SINGLE PUNCTUATION|DOUBLE PUNCTUATION"]⟩,
  ⟨0x1740, "BUHID LETTER ", ["A|I|U|KA|GA|NGA|TA|DA|NA|PA|BA|MA|YA|RA|LA|WA|SA|HA"]⟩,
  ⟨0x1752, "BUHID VOWEL SIGN ", ["I|U"]⟩,
  ⟨0x1760, "TAGBANWA LETTER ", ["A|I|U|KA|GA|NGA|TA|DA|NA|PA|BA|MA|YA"]⟩,
  ⟨0x176E, "TAGBANWA LETTER ", ["LA|WA|SA"]⟩,
  ⟨0x1772, "TAGBANWA VOWEL SIGN ", ["I|U"]⟩,
  ⟨0x1780, "KHMER LETTER ", [
    "KA|KHA|KO|KHO|NGO|CA|CHA|CO|CHO|NYO|DA|TTHA|DO|TTHO|NNO|TA|THA|TO|THO|NO|BA|PHA|PO|PHO|MO|YO|RO|LO|VO|SHA|SSO",
    "SA|HA|LA|QA"]⟩,
  ⟨0x17A3, "KHMER INDEPENDENT VOWEL ", [
    "QAQ|QAA|QI|QII|QU|QUK|QUU|QUUV|RY|RYY|LY|LYY|QE|QAI|QOO TYPE ONE|QOO TYPE TWO|QAU"]⟩,
  ⟨0x17B4, "KHMER VOWEL INHERENT ", ["AQ|AA"]⟩,
  ⟨0x17B6, "KHMER VOWEL SIGN ", ["AA|I|II|Y|YY|U|UU|UA|OE|YA|IE|E|AE|AI|OO|AU"]⟩,
  ⟨0x17C6, "KHMER SIGN ", [
    "NIKAHIT|REAHMUK|YUUKALEAPINTU|MUUSIKATOAN|TRIISAP|BANTOC|ROBAT|TOANDAKHIAT|KAKABAT|AHSDA|SAMYOK SANNYA|VIRIAM",
    "COENG|BATHAMASAT|KHAN|BARIYOOSAN|CAMNUC PII KUUH|LEK TOO|BEYYAL|PHNAEK MUAN|KOOMUUT"]⟩,
  ⟨0x17DB, "KHMER ", ["CURRENCY SYMBOL RIEL|SIGN AVAKRAHASANYA|SIGN ATTHACAN"]⟩,
  ⟨0x17E0, "KHMER DIGIT ", ["ZERO|ONE|TWO|THREE|FOUR|FIVE|SIX|SEVEN|EIGHT|NINE"]⟩,
  ⟨0x17F0, "KHMER SYMBOL LEK ATTAK ", ["SON|MUOY|PII|BEI|BUON|PRAM|PRAM-MUOY|PRAM-PII|PRAM-BEI|PRAM-BUON"]⟩]

/-- From U+1800 to U+1FFF. -/
def from1800 : List NameRun := [
  ⟨0x1800, "MONGOLIAN ", [
    "BIRGA|ELLIPSIS|COMMA|FULL STOP|COLON|FOUR DOTS|TODO SOFT HYPHEN|SIBE SYLLABLE BOUNDARY MARKER|MANCHU COMMA",
    "MANCHU FULL STOP|NIRUGU|FREE VARIATION SELECTOR ONE|FREE VARIATION SELECTOR TWO|FREE VARIATION SELECTOR THREE",
    "VOWEL SEPARATOR|FREE VARIATION SELECTOR FOUR"]⟩,
  ⟨0x1810, "MONGOLIAN DIGIT ", ["ZERO|ONE|TWO|THREE|FOUR|FIVE|SIX|SEVEN|EIGHT|NINE"]⟩,
  ⟨0x1820, "MONGOLIAN LETTER ", [
    "A|E|I|O|U|OE|UE|EE|NA|ANG|BA|PA|QA|GA|MA|LA|SA|SHA|TA|DA|CHA|JA|YA|RA|WA|FA|KA|KHA|TSA|ZA|HAA|ZRA|LHA|ZHI|CHI"]⟩,
  ⟨0x1843, "MONGOLIAN LETTER TODO ", [
    "LONG VOWEL SIGN|E|I|O|U|OE|UE|ANG|BA|PA|QA|GA|MA|TA|DA|CHA|JA|TSA|YA|WA|KA|GAA|HAA|JIA|NIA|DZA"]⟩,
  ⟨0x185D, "MONGOLIAN LETTER SIBE ", ["E|I|IY|UE|U|ANG|KA|GA|HA|PA|SHA|TA|DA|JA|FA|GAA|HAA|TSA|ZA|RAA|CHA|ZHA"]⟩,
  ⟨0x1873, "MONGOLIAN LETTER ", ["MANCHU I|MANCHU KA|MANCHU RA|MANCHU FA|MANCHU ZHA|CHA WITH TWO DOTS"]⟩,
  ⟨0x1880, "MONGOLIAN LETTER ALI GALI ", [
    "ANUSVARA ONE|VISARGA ONE|DAMARU|UBADAMA|INVERTED UBADAMA|BALUDA|THREE BALUDA|A|I|KA|NGA|CA|TTA|TTHA|DDA|NNA|TA",
    "DA|PA|PHA|SSA|ZHA|ZA|AH"]⟩,
  ⟨0x1898, "MONGOLIAN LETTER TODO ALI GALI ", ["TA|ZHA"]⟩,
  ⟨0x189A, "MONGOLIAN LETTER MANCHU ALI GALI ", ["GHA|NGA|CA|JHA|TTA|DDHA|TA|DHA|SSA|CYA|ZHA|ZA"]⟩,
  ⟨0x18A6, "MONGOLIAN LETTER ", [
    "ALI GALI HALF U|ALI GALI HALF YA|MANCHU ALI GALI BHA|ALI GALI DAGALGA|MANCHU ALI GALI LHA"]⟩,
  ⟨0x18B0, "CANADIAN SYLLABICS ", [
    "OY|AY|AAY|WAY|POY|PAY|PWOY|TAY|KAY|KWAY|MAY|NOY|NAY|LAY|SOY|SAY|SHOY|SHAY|SHWOY|YOY|YAY|RAY|NWI|OJIBWAY NWI",
    "NWII|OJIBWAY NWII|NWO|OJIBWAY NWO|NWOO|OJIBWAY NWOO|RWEE|RWI|RWII|RWO|RWOO|RWA|OJIBWAY P|OJIBWAY T|OJIBWAY K",
    "OJIBWAY C|OJIBWAY M|OJIBWAY N|OJIBWAY S|OJIBWAY SH|EASTERN W|WESTERN W|FINAL SMALL RING|FINAL RAISED DOT",
    "R-CREE RWE|WEST-CREE LOO|WEST-CREE LAA|THWE|THWA|TTHWE|TTHOO|TTHAA|TLHWE|TLHOO|SAYISI SHWE|SAYISI SHOO",
    "SAYISI HOO|CARRIER GWU|CARRIER DENE GEE|CARRIER GAA|CARRIER GWA|SAYISI JUU|CARRIER JWA|BEAVER DENE L",
    "BEAVER DENE R|CARRIER DENTAL S"]⟩,
  ⟨0x1900, "LIMBU VOWEL-CARRIER LETTER", [""]⟩,
  ⟨0x1901, "LIMBU LETTER ", [
    "KA|KHA|GA|GHA|NGA|CA|CHA|JA|JHA|YAN|TA|THA|DA|DHA|NA|PA|PHA|BA|BHA|MA|YA|RA|LA|WA|SHA|SSA|SA|HA|GYAN|TRA"]⟩,
  ⟨0x1920, "LIMBU VOWEL SIGN ", ["A|I|U|EE|AI|OO|AU|E|O"]⟩,
  ⟨0x1929, "LIMBU SUBJOINED LETTER ", ["YA|RA|WA"]⟩,
  ⟨0x1930, "LIMBU SMALL LETTER ", ["KA|NGA|ANUSVARA|TA|NA|PA|MA|RA|LA"]⟩,
  ⟨0x1939, "LIMBU SIGN ", ["MUKPHRENG|KEMPHRENG|SA-I"]⟩,
  ⟨0x1940, "LIMBU SIGN LOO", [""]⟩,
  ⟨0x1944, "LIMBU ", ["EXCLAMATION MARK|QUESTION MARK"]⟩,
  ⟨0x1946, "LIMBU DIGIT ", ["ZERO|ONE|TWO|THREE|FOUR|FIVE|SIX|SEVEN|EIGHT|NINE"]⟩,
  ⟨0x1950, "TAI LE LETTER ", [
    "KA|XA|NGA|TSA|SA|YA|TA|THA|LA|PA|PHA|MA|FA|VA|HA|QA|KHA|TSHA|NA|A|I|EE|EH|U|OO|O|UE|E|AUE|AI"]⟩,
  ⟨0x1970, "TAI LE LETTER TONE-", ["2|3|4|5|6"]⟩,
  ⟨0x1980, "NEW TAI LUE LETTER ", [
    "HIGH QA|LOW QA|HIGH KA|HIGH XA|HIGH NGA|LOW KA|LOW XA|LOW NGA|HIGH TSA|HIGH SA|HIGH YA|LOW TSA|LOW SA|LOW YA",
    "HIGH TA|HIGH THA|HIGH NA|LOW TA|LOW THA|LOW NA|HIGH PA|HIGH PHA|HIGH MA|LOW PA|LOW PHA|LOW MA|HIGH FA|HIGH VA",
    "HIGH LA|LOW FA|LOW VA|LOW LA|HIGH HA|HIGH DA|HIGH BA|LOW HA|LOW DA|LOW BA|HIGH KVA|HIGH XVA|LOW KVA|LOW XVA",
    "HIGH SUA|LOW SUA"]⟩,
  ⟨0x19B0, "NEW TAI LUE VOWEL SIGN ", ["VOWEL SHORTENER|AA|II|U|UU|E|AE|O|OA|UE|AY|AAY|UY|OY|OAY|UEY|IY"]⟩,
  ⟨0x19C1, "NEW TAI LUE LETTER FINAL ", ["V|NG|N|M|K|D|B"]⟩,
  ⟨0x19C8, "NEW TAI LUE TONE MARK-", ["1|2"]⟩,
  ⟨0x19D0, "NEW TAI LUE DIGIT ", ["ZERO|ONE|TWO|THREE|FOUR|FIVE|SIX|SEVEN|EIGHT|NINE"]⟩,
  ⟨0x19DA, "NEW TAI LUE THAM DIGIT ONE", [""]⟩,
  ⟨0x19DE, "NEW TAI LUE SIGN ", ["LAE|LAEV"]⟩,
  ⟨0x19E0, "KHMER SYMBOL ", [
    "PATHAMASAT|MUOY KOET|PII KOET|BEI KOET|BUON KOET|PRAM KOET|PRAM-MUOY KOET|PRAM-PII KOET|PRAM-BEI KOET",
    "PRAM-BUON KOET|DAP KOET|DAP-MUOY KOET|DAP-PII KOET|DAP-BEI KOET|DAP-BUON KOET|DAP-PRAM KOET|TUTEYASAT|MUOY ROC",
    "PII ROC|BEI ROC|BUON ROC|PRAM ROC|PRAM-MUOY ROC|PRAM-PII ROC|PRAM-BEI ROC|PRAM-BUON ROC|DAP ROC|DAP-MUOY ROC",
    "DAP-PII ROC|DAP-BEI ROC|DAP-BUON ROC|DAP-PRAM ROC"]⟩,
  ⟨0x1A00, "BUGINESE LETTER ", ["KA|GA|NGA|NGKA|PA|BA|MA|MPA|TA|DA|NA|NRA|CA|JA|NYA|NYCA|YA|RA|LA|VA|SA|A|HA"]⟩,
  ⟨0x1A17, "BUGINESE VOWEL SIGN ", ["I|U|E|O|AE"]⟩,
  ⟨0x1A1E, "BUGINESE ", ["PALLAWA|END OF SECTION"]⟩,
  ⟨0x1A20, "TAI THAM LETTER ", [
    "HIGH KA|HIGH KHA|HIGH KXA|LOW KA|LOW KXA|LOW KHA|NGA|HIGH CA|HIGH CHA|LOW CA|LOW SA|LOW CHA|NYA|RATA",
    "HIGH RATHA|DA|LOW RATHA|RANA|HIGH TA|HIGH THA|LOW TA|LOW THA|NA|BA|HIGH PA|HIGH PHA|HIGH FA|LOW PA|LOW FA",
    "LOW PHA|MA|LOW YA|HIGH YA|RA|RUE|LA|LUE|WA|HIGH SHA|HIGH SSA|HIGH SA|HIGH HA|LLA|A|LOW HA|I|II|U|UU|EE|OO|LAE",
    "GREAT SA"]⟩,
  ⟨0x1A55, "TAI THAM CONSONANT SIGN ", ["MEDIAL RA|MEDIAL LA|LA TANG LAI"]⟩,
  ⟨0x1A58, "TAI THAM SIGN MAI KANG LAI", [""]⟩,
  ⟨0x1A59, "TAI THAM CONSONANT SIGN ", ["FINAL NGA|LOW PA|HIGH RATHA OR LOW PA|MA|BA|SA"]⟩,
  ⟨0x1A60, "TAI THAM SIGN SAKOT", [""]⟩,
  ⟨0x1A61, "TAI THAM VOWEL SIGN ", [
    "A|MAI SAT|AA|TALL AA|I|II|UE|UUE|U|UU|O|OA BELOW|OY|E|AE|OO|AI|THAM AI|OA ABOVE"]⟩,
  ⟨0x1A74, "TAI THAM SIGN ", [
    "MAI KANG|TONE-1|TONE-2|KHUEN TONE-3|KHUEN TONE-4|KHUEN TONE-5|RA HAAM|MAI SAM|KHUEN-LUE KARAN"]⟩,
  ⟨0x1A7F, "TAI THAM COMBINING CRYPTOGRAMMIC DOT", [""]⟩,
  ⟨0x1A80, "TAI THAM HORA DIGIT ", ["ZERO|ONE|TWO|THREE|FOUR|FIVE|SIX|SEVEN|EIGHT|NINE"]⟩,
  ⟨0x1A90, "TAI THAM THAM DIGIT ", ["ZERO|ONE|TWO|THREE|FOUR|FIVE|SIX|SEVEN|EIGHT|NINE"]⟩,
  ⟨0x1AA0, "TAI THAM SIGN ", [
    "WIANG|WIANGWAAK|SAWAN|KEOW|HOY|DOKMAI|REVERSED ROTATED RANA|MAI YAMOK|KAAN|KAANKUU|SATKAAN|SATKAANKUU|HANG",
    "CAANG"]⟩,
  ⟨0x1AB0, "COMBINING ", [
    "DOUBLED CIRCUMFLEX ACCENT|DIAERESIS-RING|INFINITY|DOWNWARDS ARROW|TRIPLE DOT|X-X BELOW|WIGGLY LINE BELOW",
    "OPEN MARK BELOW|DOUBLE OPEN MARK BELOW|LIGHT CENTRALIZATION STROKE BELOW|STRONG CENTRALIZATION STROKE BELOW",
    "PARENTHESES ABOVE|DOUBLE PARENTHESES ABOVE|PARENTHESES BELOW|PARENTHESES OVERLAY|LATIN SMALL LETTER W BELOW",
    "LATIN SMALL LETTER TURNED W BELOW|LEFT PARENTHESIS ABOVE LEFT|RIGHT PARENTHESIS ABOVE RIGHT",
    "LEFT PARENTHESIS BELOW LEFT|RIGHT PARENTHESIS BELOW RIGHT|SQUARE BRACKETS ABOVE|NUMBER SIGN ABOVE",
    "INVERTED DOUBLE ARCH ABOVE|PLUS SIGN ABOVE|DOUBLE PLUS SIGN ABOVE|DOUBLE PLUS SIGN BELOW|TRIPLE ACUTE ACCENT"]⟩,
  ⟨0x1ACC, "COMBINING LATIN SMALL LETTER INSULAR ", ["G|R|T"]⟩,
  ⟨0x1B00, "BALINESE SIGN ", ["ULU RICEM|ULU CANDRA|CECEK|SURANG|BISAH"]⟩,
  ⟨0x1B05, "BALINESE LETTER ", [
    "AKARA|AKARA TEDUNG|IKARA|IKARA TEDUNG|UKARA|UKARA TEDUNG|RA REPA|RA REPA TEDUNG|LA LENGA|LA LENGA TEDUNG|EKARA",
    "AIKARA|OKARA|OKARA TEDUNG|KA|KA MAHAPRANA|GA|GA GORA|NGA|CA|CA LACA|JA|JA JERA|NYA|TA LATIK|TA MURDA MAHAPRANA",
    "DA MURDA ALPAPRANA|DA MURDA MAHAPRANA|NA RAMBAT|TA|TA TAWA|DA|DA MADU|NA|PA|PA KAPAL|BA|BA KEMBANG|MA|YA|RA|LA",
    "WA|SA SAGA|SA SAPA|SA|HA"]⟩,
  ⟨0x1B34, "BALINESE SIGN REREKAN", [""]⟩,
  ⟨0x1B35, "BALINESE VOWEL SIGN ", [
    "TEDUNG|ULU|ULU SARI|SUKU|SUKU ILUT|RA REPA|RA REPA TEDUNG|LA LENGA|LA LENGA TEDUNG|TALING|TALING REPA",
    "TALING TEDUNG|TALING REPA TEDUNG|PEPET|PEPET TEDUNG"]⟩,
  ⟨0x1B44, "BALINESE ADEG ADEG", [""]⟩,
  ⟨0x1B45, "BALINESE LETTER ", [
    "KAF SASAK|KHOT SASAK|TZIR SASAK|EF SASAK|VE SASAK|ZAL SASAK|ASYURA SASAK|ARCHAIC JNYA"]⟩,
  ⟨0x1B50, "BALINESE DIGIT ", ["ZERO|ONE|TWO|THREE|FOUR|FIVE|SIX|SEVEN|EIGHT|NINE"]⟩,
  ⟨0x1B5A, "BALINESE ", ["PANTI|PAMADA|WINDU|CARIK PAMUNGKAH|CARIK SIKI|CARIK PAREREN|PAMENENG"]⟩,
  ⟨0x1B61, "BALINESE MUSICAL SYMBOL ", ["DONG|DENG|DUNG|DANG|DANG SURANG|DING|DAENG|DEUNG|DAING|DANG GEDE"]⟩,
  ⟨0x1B6B, "BALINESE MUSICAL SYMBOL COMBINING ", [
    "TEGEH|ENDEP|KEMPUL|KEMPLI|JEGOGAN|KEMPUL WITH JEGOGAN|KEMPLI WITH JEGOGAN|BENDE|GONG"]⟩,
  ⟨0x1B74, "BALINESE MUSICAL SYMBOL RIGHT-HAND ", ["OPEN DUG|OPEN DAG|CLOSED TUK|CLOSED TAK"]⟩,
  ⟨0x1B78, "BALINESE MUSICAL SYMBOL LEFT-HAND ", ["OPEN PANG|OPEN PUNG|CLOSED PLAK|CLOSED PLUK|OPEN PING"]⟩,
  ⟨0x1B7D, "BALINESE ", ["PANTI LANTANG|PAMADA LANTANG"]⟩,
  ⟨0x1B80, "SUNDANESE SIGN ", ["PANYECEK|PANGLAYAR|PANGWISAD"]⟩,
  ⟨0x1B83, "SUNDANESE LETTER ", [
    "A|I|U|AE|O|E|EU|KA|QA|GA|NGA|CA|JA|ZA|NYA|TA|DA|NA|PA|FA|VA|BA|MA|YA|RA|LA|WA|SA|XA|HA"]⟩,
  ⟨0x1BA1, "SUNDANESE CONSONANT SIGN ", ["PAMINGKAL|PANYAKRA|PANYIKU"]⟩,
  ⟨0x1BA4, "SUNDANESE VOWEL SIGN ", ["PANGHULU|PANYUKU|PANAELAENG|PANOLONG|PAMEPET|PANEULEUNG"]⟩,
  ⟨0x1BAA, "SUNDANESE ", [
    "SIGN PAMAAEH|SIGN VIRAMA|CONSONANT SIGN PASANGAN MA|CONSONANT SIGN PASANGAN WA|LETTER KHA|LETTER SYA"]⟩,
  ⟨0x1BB0, "SUNDANESE DIGIT ", ["ZERO|ONE|TWO|THREE|FOUR|FIVE|SIX|SEVEN|EIGHT|NINE"]⟩,
  ⟨0x1BBA, "SUNDANESE AVAGRAHA", [""]⟩,
  ⟨0x1BBB, "SUNDANESE LETTER ", ["REU|LEU|BHA|FINAL K|FINAL M"]⟩,
  ⟨0x1BC0, "BATAK LETTER ", [
    "A|SIMALUNGUN A|HA|SIMALUNGUN HA|MANDAILING HA|BA|KARO BA|PA|SIMALUNGUN PA|NA|MANDAILING NA|WA|SIMALUNGUN WA",
    "PAKPAK WA|GA|SIMALUNGUN GA|JA|DA|RA|SIMALUNGUN RA|MA|SIMALUNGUN MA|SOUTHERN TA|NORTHERN TA|SA|SIMALUNGUN SA",
    "MANDAILING SA|YA|SIMALUNGUN YA|NGA|LA|SIMALUNGUN LA|NYA|CA|NDA|MBA|I|U"]⟩,
  ⟨0x1BE6, "BATAK SIGN TOMPI", [""]⟩,
  ⟨0x1BE7, "BATAK VOWEL SIGN ", ["E|PAKPAK E|EE|I|KARO I|O|KARO O|U|U FOR SIMALUNGUN SA"]⟩,
  ⟨0x1BF0, "BATAK ", ["CONSONANT SIGN NG|CONSONANT SIGN H|PANGOLAT|PANONGONAN"]⟩,
  ⟨0x1BFC, "BATAK SYMBOL BINDU ", ["NA METEK|PINARBORAS|JUDUL|PANGOLAT"]⟩,
  ⟨0x1C00, "LEPCHA LETTER ", [
    "KA|KLA|KHA|GA|GLA|NGA|CA|CHA|JA|NYA|TA|THA|DA|NA|PA|PLA|PHA|FA|FLA|BA|BLA|MA|MLA|TSA|TSHA|DZA|YA|RA|LA|HA|HLA",
    "VA|SA|SHA|WA|A"]⟩,
  ⟨0x1C24, "LEPCHA SUBJOINED LETTER ", ["YA|RA"]⟩,
  ⟨0x1C26, "LEPCHA VOWEL SIGN ", ["AA|I|O|OO|U|UU|E"]⟩,
  ⟨0x1C2D, "LEPCHA CONSONANT SIGN ", ["K|M|L|N|P|R|T|NYIN-DO|KANG"]⟩,
  ⟨0x1C36, "LEPCHA SIGN ", ["RAN|NUKTA"]⟩,
  ⟨0x1C3B, "LEPCHA PUNCTUATION ", ["TA-ROL|NYET THYOOM TA-ROL|CER-WA|TSHOOK CER-WA|TSHOOK"]⟩,
  ⟨0x1C40, "LEPCHA DIGIT ", ["ZERO|ONE|TWO|THREE|FOUR|FIVE|SIX|SEVEN|EIGHT|NINE"]⟩,
  ⟨0x1C4D, "LEPCHA LETTER ", ["TTA|TTHA|DDA"]⟩,
  ⟨0x1C50, "OL CHIKI DIGIT ", ["ZERO|ONE|TWO|THREE|FOUR|FIVE|SIX|SEVEN|EIGHT|NINE"]⟩,
  ⟨0x1C5A, "OL CHIKI LETTER ", [
    "LA|AT|AG|ANG|AL|LAA|AAK|AAJ|AAM|AAW|LI|IS|IH|INY|IR|LU|UC|UD|UNN|UY|LE|EP|EDD|EN|ERR|LO|OTT|OB|OV|OH"]⟩,
  ⟨0x1C78, "OL CHIKI ", [
    "MU TTUDDAG|GAAHLAA TTUDDAAG|MU-GAAHLAA TTUDDAAG|RELAA|PHAARKAA|AHAD|PUNCTUATION MUCAAD",
    "PUNCTUATION DOUBLE MUCAAD"]⟩,
  ⟨0x1C80, "CYRILLIC SMALL LETTER ", [
    "ROUNDED VE|LONG-LEGGED DE|NARROW O|WIDE ES|TALL TE|THREE-LEGGED TE|TALL HARD SIGN|TALL YAT|UNBLENDED UK"]⟩,
  ⟨0x1C90, "GEORGIAN MTAVRULI CAPITAL LETTER ", [
    "AN|BAN|GAN|DON|EN|VIN|ZEN|TAN|IN|KAN|LAS|MAN|NAR|ON|PAR|ZHAR|RAE|SAN|TAR|UN|PHAR|KHAR|GHAN|QAR|SHIN|CHIN|CAN",
    "JIL|CIL|CHAR|XAN|JHAN|HAE|HE|HIE|WE|HAR|HOE|FI|YN|ELIFI|TURNED GAN|AIN"]⟩,
  ⟨0x1CBD, "GEORGIAN MTAVRULI CAPITAL LETTER ", ["AEN|HARD SIGN|LABIAL SIGN"]⟩,
  ⟨0x1CC0, "SUNDANESE PUNCTUATION BINDU ", [
    "SURYA|PANGLONG|PURNAMA|CAKRA|LEU SATANGA|KA SATANGA|DA SATANGA|BA SATANGA"]⟩,
  ⟨0x1CD0, "VEDIC ", ["TONE KARSHANA|TONE SHARA|TONE PRENKHA|SIGN NIHSHVASA|SIGN YAJURVEDIC MIDLINE SVARITA"]⟩,
  ⟨0x1CD5, "VEDIC TONE ", [
    "YAJURVEDIC AGGRAVATED INDEPENDENT SVARITA|YAJURVEDIC INDEPENDENT SVARITA",
    "YAJURVEDIC KATHAKA INDEPENDENT SVARITA|CANDRA BELOW|YAJURVEDIC KATHAKA INDEPENDENT SVARITA SCHROEDER",
    "DOUBLE SVARITA|TRIPLE SVARITA|KATHAKA ANUDATTA|DOT BELOW|TWO DOTS BELOW|THREE DOTS BELOW",
    "RIGVEDIC KASHMIRI INDEPENDENT SVARITA|ATHARVAVEDIC INDEPENDENT SVARITA"]⟩,
  ⟨0x1CE2, "VEDIC SIGN ", [
    "VISARGA SVARITA|VISARGA UDATTA|REVERSED VISARGA UDATTA|VISARGA ANUDATTA|REVERSED VISARGA ANUDATTA",
    "VISARGA UDATTA WITH TAIL|VISARGA ANUDATTA WITH TAIL|ANUSVARA ANTARGOMUKHA|ANUSVARA BAHIRGOMUKHA",
    "ANUSVARA VAMAGOMUKHA|ANUSVARA VAMAGOMUKHA WITH TAIL|TIRYAK|HEXIFORM LONG ANUSVARA|LONG ANUSVARA",
    "RTHANG LONG ANUSVARA|ANUSVARA UBHAYATO MUKHA|ARDHAVISARGA|ROTATED ARDHAVISARGA"]⟩,
  ⟨0x1CF4, "VEDIC ", [
    "TONE CANDRA ABOVE|SIGN JIHVAMULIYA|SIGN UPADHMANIYA|SIGN ATIKRAMA|TONE RING ABOVE|TONE DOUBLE RING ABOVE",
    "SIGN DOUBLE ANUSVARA ANTARGOMUKHA"]⟩,
  ⟨0x1D00, "LATIN ", ["LETTER SMALL CAPITAL A|LETTER SMALL CAPITAL AE|SMALL LETTER TURNED AE"]⟩,
  ⟨0x1D03, "LATIN LETTER SMALL CAPITAL ", ["BARRED B|C|D|ETH|E"]⟩,
  ⟨0x1D08, "LATIN SMALL LETTER TURNED ", ["OPEN E|I"]⟩,
  ⟨0x1D0A, "LATIN LETTER SMALL CAPITAL ", ["J|K|L WITH STROKE|M|REVERSED N|O|OPEN O"]⟩,
  ⟨0x1D11, "LATIN SMALL LETTER SIDEWAYS ", ["O|OPEN O|O WITH STROKE"]⟩,
  ⟨0x1D14, "LATIN ", [
    "SMALL LETTER TURNED OE|LETTER SMALL CAPITAL OU|SMALL LETTER TOP HALF O|SMALL LETTER BOTTOM HALF O"]⟩,
  ⟨0x1D18, "LATIN LETTER SMALL CAPITAL ", ["P|REVERSED R|TURNED R|T|U"]⟩,
  ⟨0x1D1D, "LATIN SMALL LETTER SIDEWAYS ", ["U|DIAERESIZED U|TURNED M"]⟩,
  ⟨0x1D20, "LATIN LETTER SMALL CAPITAL ", ["V|W|Z|EZH"]⟩,
  ⟨0x1D24, "LATIN LETTER ", ["VOICED LARYNGEAL SPIRANT|AIN"]⟩,
  ⟨0x1D26, "GREEK LETTER SMALL CAPITAL ", ["GAMMA|LAMDA|PI|RHO|PSI"]⟩,
  ⟨0x1D2B, "CYRILLIC LETTER SMALL CAPITAL EL", [""]⟩,
  ⟨0x1D2C, "MODIFIER LETTER CAPITAL ", ["A|AE|B|BARRED B|D|E|REVERSED E|G|H|I|J|K|L|M|N|REVERSED N|O|OU|P|R|T|U|W"]⟩,
  ⟨0x1D43, "MODIFIER LETTER SMALL ", [
    "A|TURNED A|ALPHA|TURNED AE|B|D|E|SCHWA|OPEN E|TURNED OPEN E|G|TURNED I|K|M|ENG|O|OPEN O|TOP HALF O",
    "BOTTOM HALF O|P|T|U|SIDEWAYS U|TURNED M|V|AIN|BETA|GREEK GAMMA|DELTA|GREEK PHI|CHI"]⟩,
  ⟨0x1D62, "LATIN SUBSCRIPT SMALL LETTER ", ["I|R|U|V"]⟩,
  ⟨0x1D66, "GREEK SUBSCRIPT SMALL LETTER ", ["BETA|GAMMA|RHO|PHI|CHI"]⟩,
  ⟨0x1D6B, "LATIN SMALL LETTER ", [
    "UE|B WITH MIDDLE TILDE|D WITH MIDDLE TILDE|F WITH MIDDLE TILDE|M WITH MIDDLE TILDE|N WITH MIDDLE TILDE",
    "P WITH MIDDLE TILDE|R WITH MIDDLE TILDE|R WITH FISHHOOK AND MIDDLE TILDE|S WITH MIDDLE TILDE",
    "T WITH MIDDLE TILDE|Z WITH MIDDLE TILDE|TURNED G"]⟩,
  ⟨0x1D78, "MODIFIER LETTER CYRILLIC EN", [""]⟩,
  ⟨0x1D79, "LATIN SMALL ", [
    "LETTER INSULAR G|LETTER TH WITH STRIKETHROUGH|CAPITAL LETTER I WITH STROKE|LETTER IOTA WITH STROKE",
    "LETTER P WITH STROKE|CAPITAL LETTER U WITH STROKE"]⟩,
  ⟨0x1D7F, "LATIN SMALL LETTER ", [
    "UPSILON WITH STROKE|B WITH PALATAL HOOK|D WITH PALATAL HOOK|F WITH PALATAL HOOK|G WITH PALATAL HOOK",
    "K WITH PALATAL HOOK|L WITH PALATAL HOOK|M WITH PALATAL HOOK|N WITH PALATAL HOOK|P WITH PALATAL HOOK",
    "R WITH PALATAL HOOK|S WITH PALATAL HOOK|ESH WITH PALATAL HOOK|V WITH PALATAL HOOK|X WITH PALATAL HOOK",
    "Z WITH PALATAL HOOK|A WITH RETROFLEX HOOK|ALPHA WITH RETROFLEX HOOK|D WITH HOOK AND TAIL|E WITH RETROFLEX HOOK",
    "OPEN E WITH RETROFLEX HOOK|REVERSED OPEN E WITH RETROFLEX HOOK|SCHWA WITH RETROFLEX HOOK|I WITH RETROFLEX HOOK",
    "OPEN O WITH RETROFLEX HOOK|ESH WITH RETROFLEX HOOK|U WITH RETROFLEX HOOK|EZH WITH RETROFLEX HOOK"]⟩,
  ⟨0x1D9B, "MODIFIER LETTER SMALL ", [
    "TURNED ALPHA|C|C WITH CURL|ETH|REVERSED OPEN E|F|DOTLESS J WITH STROKE|SCRIPT G|TURNED H|I WITH STROKE|IOTA",
    "CAPITAL I|CAPITAL I WITH STROKE|J WITH CROSSED-TAIL|L WITH RETROFLEX HOOK|L WITH PALATAL HOOK|CAPITAL L",
    "M WITH HOOK|TURNED M WITH LONG LEG|N WITH LEFT HOOK|N WITH RETROFLEX HOOK|CAPITAL N|BARRED O|PHI|S WITH HOOK",
    "ESH|T WITH PALATAL HOOK|U BAR|UPSILON|CAPITAL U|V WITH HOOK|TURNED V|Z|Z WITH RETROFLEX HOOK|Z WITH CURL|EZH",
    "THETA"]⟩,
  ⟨0x1DC0, "COMBINING ", [
    "DOTTED GRAVE ACCENT|DOTTED ACUTE ACCENT|SNAKE BELOW|SUSPENSION MARK|MACRON-ACUTE|GRAVE-MACRON|MACRON-GRAVE",
    "ACUTE-MACRON|GRAVE-ACUTE-GRAVE|ACUTE-GRAVE-ACUTE|LATIN SMALL LETTER R BELOW|BREVE-MACRON|MACRON-BREVE",
    "DOUBLE CIRCUMFLEX ABOVE|OGONEK ABOVE|ZIGZAG BELOW|IS BELOW|UR ABOVE|US ABOVE"]⟩,
  ⟨0x1DD3, "COMBINING LATIN SMALL LETTER ", ["FLATTENED OPEN A ABOVE|AE|AO|AV|C CEDILLA|INSULAR D|ETH|G"]⟩,
  ⟨0x1DDB, "COMBINING LATIN ", [
    "LETTER SMALL CAPITAL G|SMALL LETTER K|SMALL LETTER L|LETTER SMALL CAPITAL L|LETTER SMALL CAPITAL M",
    "SMALL LETTER N|LETTER SMALL CAPITAL N|LETTER SMALL CAPITAL R"]⟩,
  ⟨0x1DE3, "COMBINING LATIN SMALL LETTER ", [
    "R ROTUNDA|S|LONG S|Z|ALPHA|B|BETA|SCHWA|F|L WITH DOUBLE MIDDLE TILDE|O WITH LIGHT CENTRALIZATION STROKE|P|ESH",
    "U WITH LIGHT CENTRALIZATION STROKE|W|A WITH DIAERESIS|O WITH DIAERESIS|U WITH DIAERESIS"]⟩,
  ⟨0x1DF5, "COMBINING ", [
    "UP TACK ABOVE|KAVYKA ABOVE RIGHT|KAVYKA ABOVE LEFT|DOT ABOVE LEFT|WIDE INVERTED BRIDGE BELOW|DOT BELOW LEFT",
    "DELETION MARK|DOUBLE INVERTED BREVE BELOW|ALMOST EQUAL TO BELOW|LEFT ARROWHEAD ABOVE",
    "RIGHT ARROWHEAD AND DOWN ARROWHEAD BELOW"]⟩,
  ⟨0x1E00, "LATIN ", [
    "CAPITAL LETTER A WITH RING BELOW|SMALL LETTER A WITH RING BELOW|CAPITAL LETTER B WITH DOT ABOVE",
    "SMALL LETTER B WITH DOT ABOVE|CAPITAL LETTER B WITH DOT BELOW|SMALL LETTER B WITH DOT BELOW",
    "CAPITAL LETTER B WITH LINE BELOW|SMALL LETTER B WITH LINE BELOW|CAPITAL LETTER C WITH CEDILLA AND ACUTE",
    "SMALL LETTER C WITH CEDILLA AND ACUTE|CAPITAL LETTER D WITH DOT ABOVE|SMALL LETTER D WITH DOT ABOVE",
    "CAPITAL LETTER D WITH DOT BELOW|SMALL LETTER D WITH DOT BELOW|CAPITAL LETTER D WITH LINE BELOW",
    "SMALL LETTER D WITH LINE BELOW|CAPITAL LETTER D WITH CEDILLA|SMALL LETTER D WITH CEDILLA",
    "CAPITAL LETTER D WITH CIRCUMFLEX BELOW|SMALL LETTER D WITH CIRCUMFLEX BELOW",
    "CAPITAL LETTER E WITH MACRON AND GRAVE|SMALL LETTER E WITH MACRON AND GRAVE",
    "CAPITAL LETTER E WITH MACRON AND ACUTE|SMALL LETTER E WITH MACRON AND ACUTE",
    "CAPITAL LETTER E WITH CIRCUMFLEX BELOW|SMALL LETTER E WITH CIRCUMFLEX BELOW|CAPITAL LETTER E WITH TILDE BELOW",
    "SMALL LETTER E WITH TILDE BELOW|CAPITAL LETTER E WITH CEDILLA AND BREVE|SMALL LETTER E WITH CEDILLA AND BREVE",
    "CAPITAL LETTER F WITH DOT ABOVE|SMALL LETTER F WITH DOT ABOVE|CAPITAL LETTER G WITH MACRON",
    "SMALL LETTER G WITH MACRON|CAPITAL LETTER H WITH DOT ABOVE|SMALL LETTER H WITH DOT ABOVE",
    "CAPITAL LETTER H WITH DOT BELOW|SMALL LETTER H WITH DOT BELOW|CAPITAL LETTER H WITH DIAERESIS",
    "SMALL LETTER H WITH DIAERESIS|CAPITAL LETTER H WITH CEDILLA|SMALL LETTER H WITH CEDILLA",
    "CAPITAL LETTER H WITH BREVE BELOW|SMALL LETTER H WITH BREVE BELOW|CAPITAL LETTER I WITH TILDE BELOW",
    "SMALL LETTER I WITH TILDE BELOW|CAPITAL LETTER I WITH DIAERESIS AND ACUTE",
    "SMALL LETTER I WITH DIAERESIS AND ACUTE|CAPITAL LETTER K WITH ACUTE|SMALL LETTER K WITH ACUTE",
    "CAPITAL LETTER K WITH DOT BELOW|SMALL LETTER K WITH DOT BELOW|CAPITAL LETTER K WITH LINE BELOW",
    "SMALL LETTER K WITH LINE BELOW|CAPITAL LETTER L WITH DOT BELOW|SMALL LETTER L WITH DOT BELOW",
    "CAPITAL LETTER L WITH DOT BELOW AND MACRON|SMALL LETTER L WITH DOT BELOW AND MACRON",
    "CAPITAL LETTER L WITH LINE BELOW|SMALL LETTER L WITH LINE BELOW|CAPITAL LETTER L WITH CIRCUMFLEX BELOW",
    "SMALL LETTER L WITH CIRCUMFLEX BELOW|CAPITAL LETTER M WITH ACUTE|SMALL LETTER M WITH ACUTE",
    "CAPITAL LETTER M WITH DOT ABOVE|SMALL LETTER M WITH DOT ABOVE|CAPITAL LETTER M WITH DOT BELOW",
    "SMALL LETTER M WITH DOT BELOW|CAPITAL LETTER N WITH DOT ABOVE|SMALL LETTER N WITH DOT ABOVE",
    "CAPITAL LETTER N WITH DOT BELOW|SMALL LETTER N WITH DOT BELOW|CAPITAL LETTER N WITH LINE BELOW",
    "SMALL LETTER N WITH LINE BELOW|CAPITAL LETTER N WITH CIRCUMFLEX BELOW|SMALL LETTER N WITH CIRCUMFLEX BELOW",
    "CAPITAL LETTER O WITH TILDE AND ACUTE|SMALL LETTER O WITH TILDE AND ACUTE",
    "CAPITAL LETTER O WITH TILDE AND DIAERESIS|SMALL LETTER O WITH TILDE AND DIAERESIS",
    "CAPITAL LETTER O WITH MACRON AND GRAVE|SMALL LETTER O WITH MACRON AND GRAVE",
    "CAPITAL LETTER O WITH MACRON AND ACUTE|SMALL LETTER O WITH MACRON AND ACUTE|CAPITAL LETTER P WITH ACUTE",
    "SMALL LETTER P WITH ACUTE|CAPITAL LETTER P WITH DOT ABOVE|SMALL LETTER P WITH DOT ABOVE",
    "CAPITAL LETTER R WITH DOT ABOVE|SMALL LETTER R WITH DOT ABOVE|CAPITAL LETTER R WITH DOT BELOW",
    "SMALL LETTER R WITH DOT BELOW|CAPITAL LETTER R WITH DOT BELOW AND MACRON",
    "SMALL LETTER R WITH DOT BELOW AND MACRON|CAPITAL LETTER R WITH LINE BELOW|SMALL LETTER R WITH LINE BELOW",
    "CAPITAL LETTER S WITH DOT ABOVE|SMALL LETTER S WITH DOT ABOVE|CAPITAL LETTER S WITH DOT BELOW",
    "SMALL LETTER S WITH DOT BELOW|CAPITAL LETTER S WITH ACUTE AND DOT ABOVE",
    "SMALL LETTER S WITH ACUTE AND DOT ABOVE|CAPITAL LETTER S WITH CARON AND DOT ABOVE",
    "SMALL LETTER S WITH CARON AND DOT ABOVE|CAPITAL LETTER S WITH DOT BELOW AND DOT ABOVE",
    "SMALL LETTER S WITH DOT BELOW AND DOT ABOVE|CAPITAL LETTER T WITH DOT ABOVE|SMALL LETTER T WITH DOT ABOVE",
    "CAPITAL LETTER T WITH DOT BELOW|SMALL LETTER T WITH DOT BELOW|CAPITAL LETTER T WITH LINE BELOW",
    "SMALL LETTER T WITH LINE BELOW|CAPITAL LETTER T WITH CIRCUMFLEX BELOW|SMALL LETTER T WITH CIRCUMFLEX BELOW",
    "CAPITAL LETTER U WITH DIAERESIS BELOW|SMALL LETTER U WITH DIAERESIS BELOW|CAPITAL LETTER U WITH TILDE BELOW",
    "SMALL LETTER U WITH TILDE BELOW|CAPITAL LETTER U WITH CIRCUMFLEX BELOW|SMALL LETTER U WITH CIRCUMFLEX BELOW",
    "CAPITAL LETTER U WITH TILDE AND ACUTE|SMALL LETTER U WITH TILDE AND ACUTE",
    "CAPITAL LETTER U WITH MACRON AND DIAERESIS|SMALL LETTER U WITH MACRON AND DIAERESIS",
    "CAPITAL LETTER V WITH TILDE|SMALL LETTER V WITH TILDE|CAPITAL LETTER V WITH DOT BELOW",
    "SMALL LETTER V WITH DOT BELOW|CAPITAL LETTER W WITH GRAVE|SMALL LETTER W WITH GRAVE",
    "CAPITAL LETTER W WITH ACUTE|SMALL LETTER W WITH ACUTE|CAPITAL LETTER W WITH DIAERESIS",
    "SMALL LETTER W WITH DIAERESIS|CAPITAL LETTER W WITH DOT ABOVE|SMALL LETTER W WITH DOT ABOVE",
    "CAPITAL LETTER W WITH DOT BELOW|SMALL LETTER W WITH DOT BELOW|CAPITAL LETTER X WITH DOT ABOVE",
    "SMALL LETTER X WITH DOT ABOVE|CAPITAL LETTER X WITH DIAERESIS|SMALL LETTER X WITH DIAERESIS",
    "CAPITAL LETTER Y WITH DOT ABOVE|SMALL LETTER Y WITH DOT ABOVE|CAPITAL LETTER Z WITH CIRCUMFLEX",
    "SMALL LETTER Z WITH CIRCUMFLEX|CAPITAL LETTER Z WITH DOT BELOW|SMALL LETTER Z WITH DOT BELOW",
    "CAPITAL LETTER Z WITH LINE BELOW"]⟩,
  ⟨0x1E95, "LATIN SMALL LETTER ", [
    "Z WITH LINE BELOW|H WITH LINE BELOW|T WITH DIAERESIS|W WITH RING ABOVE|Y WITH RING ABOVE",
    "A WITH RIGHT HALF RING|LONG S WITH DOT ABOVE|LONG S WITH DIAGONAL STROKE|LONG S WITH HIGH STROKE"]⟩,
  ⟨0x1E9E, "LATIN ", [
    "CAPITAL LETTER SHARP S|SMALL LETTER DELTA|CAPITAL LETTER A WITH DOT BELOW|SMALL LETTER A WITH DOT BELOW",
    "CAPITAL LETTER A WITH HOOK ABOVE|SMALL LETTER A WITH HOOK ABOVE|CAPITAL LETTER A WITH CIRCUMFLEX AND ACUTE",
    "SMALL LETTER A WITH CIRCUMFLEX AND ACUTE|CAPITAL LETTER A WITH CIRCUMFLEX AND GRAVE",
    "SMALL LETTER A WITH CIRCUMFLEX AND GRAVE|CAPITAL LETTER A WITH CIRCUMFLEX AND HOOK ABOVE",
    "SMALL LETTER A WITH CIRCUMFLEX AND HOOK ABOVE|CAPITAL LETTER A WITH CIRCUMFLEX AND TILDE",
    "SMALL LETTER A WITH CIRCUMFLEX AND TILDE|CAPITAL LETTER A WITH CIRCUMFLEX AND DOT BELOW",
    "SMALL LETTER A WITH CIRCUMFLEX AND DOT BELOW|CAPITAL LETTER A WITH BREVE AND ACUTE",
    "SMALL LETTER A WITH BREVE AND ACUTE|CAPITAL LETTER A WITH BREVE AND GRAVE|SMALL LETTER A WITH BREVE AND GRAVE",
    "CAPITAL LETTER A WITH BREVE AND HOOK ABOVE|SMALL LETTER A WITH BREVE AND HOOK ABOVE",
    "CAPITAL LETTER A WITH BREVE AND TILDE|SMALL LETTER A WITH BREVE AND TILDE",
    "CAPITAL LETTER A WITH BREVE AND DOT BELOW|SMALL LETTER A WITH BREVE AND DOT BELOW",
    "CAPITAL LETTER E WITH DOT BELOW|SMALL LETTER E WITH DOT BELOW|CAPITAL LETTER E WITH HOOK ABOVE",
    "SMALL LETTER E WITH HOOK ABOVE|CAPITAL LETTER E WITH TILDE|SMALL LETTER E WITH TILDE",
    "CAPITAL LETTER E WITH CIRCUMFLEX AND ACUTE|SMALL LETTER E WITH CIRCUMFLEX AND ACUTE",
    "CAPITAL LETTER E WITH CIRCUMFLEX AND GRAVE|SMALL LETTER E WITH CIRCUMFLEX AND GRAVE",
    "CAPITAL LETTER E WITH CIRCUMFLEX AND HOOK ABOVE|SMALL LETTER E WITH CIRCUMFLEX AND HOOK ABOVE",
    "CAPITAL LETTER E WITH CIRCUMFLEX AND TILDE|SMALL LETTER E WITH CIRCUMFLEX AND TILDE",
    "CAPITAL LETTER E WITH CIRCUMFLEX AND DOT BELOW|SMALL LETTER E WITH CIRCUMFLEX AND DOT BELOW",
    "CAPITAL LETTER I WITH HOOK ABOVE|SMALL LETTER I WITH HOOK ABOVE|CAPITAL LETTER I WITH DOT BELOW",
    "SMALL LETTER I WITH DOT BELOW|CAPITAL LETTER O WITH DOT BELOW|SMALL LETTER O WITH DOT BELOW",
    "CAPITAL LETTER O WITH HOOK ABOVE|SMALL LETTER O WITH HOOK ABOVE|CAPITAL LETTER O WITH CIRCUMFLEX AND ACUTE",
    "SMALL LETTER O WITH CIRCUMFLEX AND ACUTE|CAPITAL LETTER O WITH CIRCUMFLEX AND GRAVE",
    "SMALL LETTER O WITH CIRCUMFLEX AND GRAVE|CAPITAL LETTER O WITH CIRCUMFLEX AND HOOK ABOVE",
    "SMALL LETTER O WITH CIRCUMFLEX AND HOOK ABOVE|CAPITAL LETTER O WITH CIRCUMFLEX AND TILDE",
    "SMALL LETTER O WITH CIRCUMFLEX AND TILDE|CAPITAL LETTER O WITH CIRCUMFLEX AND DOT BELOW",
    "SMALL LETTER O WITH CIRCUMFLEX AND DOT BELOW|CAPITAL LETTER O WITH HORN AND ACUTE",
    "SMALL LETTER O WITH HORN AND ACUTE|CAPITAL LETTER O WITH HORN AND GRAVE|SMALL LETTER O WITH HORN AND GRAVE",
    "CAPITAL LETTER O WITH HORN AND HOOK ABOVE|SMALL LETTER O WITH HORN AND HOOK ABOVE",
    "CAPITAL LETTER O WITH HORN AND TILDE|SMALL LETTER O WITH HORN AND TILDE",
    "CAPITAL LETTER O WITH HORN AND DOT BELOW|SMALL LETTER O WITH HORN AND DOT BELOW",
    "CAPITAL LETTER U WITH DOT BELOW|SMALL LETTER U WITH DOT BELOW|CAPITAL LETTER U WITH HOOK ABOVE",
    "SMALL LETTER U WITH HOOK ABOVE|CAPITAL LETTER U WITH HORN AND ACUTE|SMALL LETTER U WITH HORN AND ACUTE",
    "CAPITAL LETTER U WITH HORN AND GRAVE|SMALL LETTER U WITH HORN AND GRAVE",
    "CAPITAL LETTER U WITH HORN AND HOOK ABOVE|SMALL LETTER U WITH HORN AND HOOK ABOVE",
    "CAPITAL LETTER U WITH HORN AND TILDE|SMALL LETTER U WITH HORN AND TILDE",
    "CAPITAL LETTER U WITH HORN AND DOT BELOW|SMALL LETTER U WITH HORN AND DOT BELOW|CAPITAL LETTER Y WITH GRAVE",
    "SMALL LETTER Y WITH GRAVE|CAPITAL LETTER Y WITH DOT BELOW|SMALL LETTER Y WITH DOT BELOW",
    "CAPITAL LETTER Y WITH HOOK ABOVE|SMALL LETTER Y WITH HOOK ABOVE|CAPITAL LETTER Y WITH TILDE",
    "SMALL LETTER Y WITH TILDE|CAPITAL LETTER MIDDLE-WELSH LL|SMALL LETTER MIDDLE-WELSH LL",
    "CAPITAL LETTER MIDDLE-WELSH V|SMALL LETTER MIDDLE-WELSH V|CAPITAL LETTER Y WITH LOOP|SMALL LETTER Y WITH LOOP"]⟩,
  ⟨0x1F00, "GREEK SMALL LETTER ALPHA WITH ", [
    "PSILI|DASIA|PSILI AND VARIA|DASIA AND VARIA|PSILI AND OXIA|DASIA AND OXIA|PSILI AND PERISPOMENI",
    "DASIA AND PERISPOMENI"]⟩,
  ⟨0x1F08, "GREEK CAPITAL LETTER ALPHA WITH ", [
    "PSILI|DASIA|PSILI AND VARIA|DASIA AND VARIA|PSILI AND OXIA|DASIA AND OXIA|PSILI AND PERISPOMENI",
    "DASIA AND PERISPOMENI"]⟩,
  ⟨0x1F10, "GREEK SMALL LETTER EPSILON WITH ", [
    "PSILI|DASIA|PSILI AND VARIA|DASIA AND VARIA|PSILI AND OXIA|DASIA AND OXIA"]⟩,
  ⟨0x1F18, "GREEK CAPITAL LETTER EPSILON WITH ", [
    "PSILI|DASIA|PSILI AND VARIA|DASIA AND VARIA|PSILI AND OXIA|DASIA AND OXIA"]⟩,
  ⟨0x1F20, "GREEK SMALL LETTER ETA WITH ", [
    "PSILI|DASIA|PSILI AND VARIA|DASIA AND VARIA|PSILI AND OXIA|DASIA AND OXIA|PSILI AND PERISPOMENI",
    "DASIA AND PERISPOMENI"]⟩,
  ⟨0x1F28, "GREEK CAPITAL LETTER ETA WITH ", [
    "PSILI|DASIA|PSILI AND VARIA|DASIA AND VARIA|PSILI AND OXIA|DASIA AND OXIA|PSILI AND PERISPOMENI",
    "DASIA AND PERISPOMENI"]⟩,
  ⟨0x1F30, "GREEK SMALL LETTER IOTA WITH ", [
    "PSILI|DASIA|PSILI AND VARIA|DASIA AND VARIA|PSILI AND OXIA|DASIA AND OXIA|PSILI AND PERISPOMENI",
    "DASIA AND PERISPOMENI"]⟩,
  ⟨0x1F38, "GREEK CAPITAL LETTER IOTA WITH ", [
    "PSILI|DASIA|PSILI AND VARIA|DASIA AND VARIA|PSILI AND OXIA|DASIA AND OXIA|PSILI AND PERISPOMENI",
    "DASIA AND PERISPOMENI"]⟩,
  ⟨0x1F40, "GREEK SMALL LETTER OMICRON WITH ", [
    "PSILI|DASIA|PSILI AND VARIA|DASIA AND VARIA|PSILI AND OXIA|DASIA AND OXIA"]⟩,
  ⟨0x1F48, "GREEK CAPITAL LETTER OMICRON WITH ", [
    "PSILI|DASIA|PSILI AND VARIA|DASIA AND VARIA|PSILI AND OXIA|DASIA AND OXIA"]⟩,
  ⟨0x1F50, "GREEK SMALL LETTER UPSILON WITH ", [
    "PSILI|DASIA|PSILI AND VARIA|DASIA AND VARIA|PSILI AND OXIA|DASIA AND OXIA|PSILI AND PERISPOMENI",
    "DASIA AND PERISPOMENI"]⟩,
  ⟨0x1F59, "GREEK CAPITAL LETTER UPSILON WITH DASIA", [""]⟩,
  ⟨0x1F5B, "GREEK CAPITAL LETTER UPSILON WITH DASIA AND VARIA", [""]⟩,
  ⟨0x1F5D, "GREEK CAPITAL LETTER UPSILON WITH DASIA AND OXIA", [""]⟩,
  ⟨0x1F5F, "GREEK CAPITAL LETTER UPSILON WITH DASIA AND PERISPOMENI", [""]⟩,
  ⟨0x1F60, "GREEK SMALL LETTER OMEGA WITH ", [
    "PSILI|DASIA|PSILI AND VARIA|DASIA AND VARIA|PSILI AND OXIA|DASIA AND OXIA|PSILI AND PERISPOMENI",
    "DASIA AND PERISPOMENI"]⟩,
  ⟨0x1F68, "GREEK CAPITAL LETTER OMEGA WITH ", [
    "PSILI|DASIA|PSILI AND VARIA|DASIA AND VARIA|PSILI AND OXIA|DASIA AND OXIA|PSILI AND PERISPOMENI",
    "DASIA AND PERISPOMENI"]⟩,
  ⟨0x1F70, "GREEK SMALL LETTER ", [
    "ALPHA WITH VARIA|ALPHA WITH OXIA|EPSILON WITH VARIA|EPSILON WITH OXIA|ETA WITH VARIA|ETA WITH OXIA",
    "IOTA WITH VARIA|IOTA WITH OXIA|OMICRON WITH VARIA|OMICRON WITH OXIA|UPSILON WITH VARIA|UPSILON WITH OXIA",
    "OMEGA WITH VARIA|OMEGA WITH OXIA"]⟩,
  ⟨0x1F80, "GREEK SMALL LETTER ALPHA WITH ", [
    "PSILI AND YPOGEGRAMMENI|DASIA AND YPOGEGRAMMENI|PSILI AND VARIA AND YPOGEGRAMMENI",
    "DASIA AND VARIA AND YPOGEGRAMMENI|PSILI AND OXIA AND YPOGEGRAMMENI|DASIA AND OXIA AND YPOGEGRAMMENI",
    "PSILI AND PERISPOMENI AND YPOGEGRAMMENI|DASIA AND PERISPOMENI AND YPOGEGRAMMENI"]⟩,
  ⟨0x1F88, "GREEK CAPITAL LETTER ALPHA WITH ", [
    "PSILI AND PROSGEGRAMMENI|DASIA AND PROSGEGRAMMENI|PSILI AND VARIA AND PROSGEGRAMMENI",
    "DASIA AND VARIA AND PROSGEGRAMMENI|PSILI AND OXIA AND PROSGEGRAMMENI|DASIA AND OXIA AND PROSGEGRAMMENI",
    "PSILI AND PERISPOMENI AND PROSGEGRAMMENI|DASIA AND PERISPOMENI AND PROSGEGRAMMENI"]⟩,
  ⟨0x1F90, "GREEK SMALL LETTER ETA WITH ", [
    "PSILI AND YPOGEGRAMMENI|DASIA AND YPOGEGRAMMENI|PSILI AND VARIA AND YPOGEGRAMMENI",
    "DASIA AND VARIA AND YPOGEGRAMMENI|PSILI AND OXIA AND YPOGEGRAMMENI|DASIA AND OXIA AND YPOGEGRAMMENI",
    "PSILI AND PERISPOMENI AND YPOGEGRAMMENI|DASIA AND PERISPOMENI AND YPOGEGRAMMENI"]⟩,
  ⟨0x1F98, "GREEK CAPITAL LETTER ETA WITH ", [
    "PSILI AND PROSGEGRAMMENI|DASIA AND PROSGEGRAMMENI|PSILI AND VARIA AND PROSGEGRAMMENI",
    "DASIA AND VARIA AND PROSGEGRAMMENI|PSILI AND OXIA AND PROSGEGRAMMENI|DASIA AND OXIA AND PROSGEGRAMMENI",
    "PSILI AND PERISPOMENI AND PROSGEGRAMMENI|DASIA AND PERISPOMENI AND PROSGEGRAMMENI"]⟩,
  ⟨0x1FA0, "GREEK SMALL LETTER OMEGA WITH ", [
    "PSILI AND YPOGEGRAMMENI|DASIA AND YPOGEGRAMMENI|PSILI AND VARIA AND YPOGEGRAMMENI",
    "DASIA AND VARIA AND YPOGEGRAMMENI|PSILI AND OXIA AND YPOGEGRAMMENI|DASIA AND OXIA AND YPOGEGRAMMENI",
    "PSILI AND PERISPOMENI AND YPOGEGRAMMENI|DASIA AND PERISPOMENI AND YPOGEGRAMMENI"]⟩,
  ⟨0x1FA8, "GREEK CAPITAL LETTER OMEGA WITH ", [
    "PSILI AND PROSGEGRAMMENI|DASIA AND PROSGEGRAMMENI|PSILI AND VARIA AND PROSGEGRAMMENI",
    "DASIA AND VARIA AND PROSGEGRAMMENI|PSILI AND OXIA AND PROSGEGRAMMENI|DASIA AND OXIA AND PROSGEGRAMMENI",
    "PSILI AND PERISPOMENI AND PROSGEGRAMMENI|DASIA AND PERISPOMENI AND PROSGEGRAMMENI"]⟩,
  ⟨0x1FB0, "GREEK SMALL LETTER ALPHA WITH ", [
    "VRACHY|MACRON|VARIA AND YPOGEGRAMMENI|YPOGEGRAMMENI|OXIA AND YPOGEGRAMMENI"]⟩,
  ⟨0x1FB6, "GREEK SMALL LETTER ALPHA WITH ", ["PERISPOMENI|PERISPOMENI AND YPOGEGRAMMENI"]⟩,
  ⟨0x1FB8, "GREEK CAPITAL LETTER ALPHA WITH ", ["VRACHY|MACRON|VARIA|OXIA|PROSGEGRAMMENI"]⟩,
  ⟨0x1FBD, "GREEK ", ["KORONIS|PROSGEGRAMMENI|PSILI|PERISPOMENI|DIALYTIKA AND PERISPOMENI"]⟩,
  ⟨0x1FC2, "GREEK SMALL LETTER ETA WITH ", ["VARIA AND YPOGEGRAMMENI|YPOGEGRAMMENI|OXIA AND YPOGEGRAMMENI"]⟩,
  ⟨0x1FC6, "GREEK SMALL LETTER ETA WITH ", ["PERISPOMENI|PERISPOMENI AND YPOGEGRAMMENI"]⟩,
  ⟨0x1FC8, "GREEK CAPITAL LETTER ", [
    "EPSILON WITH VARIA|EPSILON WITH OXIA|ETA WITH VARIA|ETA WITH OXIA|ETA WITH PROSGEGRAMMENI"]⟩,
  ⟨0x1FCD, "GREEK PSILI AND ", ["VARIA|OXIA|PERISPOMENI"]⟩,
  ⟨0x1FD0, "GREEK SMALL LETTER IOTA WITH ", ["VRACHY|MACRON|DIALYTIKA AND VARIA|DIALYTIKA AND OXIA"]⟩,
  ⟨0x1FD6, "GREEK SMALL LETTER IOTA WITH ", ["PERISPOMENI|DIALYTIKA AND PERISPOMENI"]⟩,
  ⟨0x1FD8, "GREEK CAPITAL LETTER IOTA WITH ", ["VRACHY|MACRON|VARIA|OXIA"]⟩,
  ⟨0x1FDD, "GREEK DASIA AND ", ["VARIA|OXIA|PERISPOMENI"]⟩,
  ⟨0x1FE0, "GREEK SMALL LETTER UPSILON WITH ", ["VRACHY|MACRON|DIALYTIKA AND VARIA|DIALYTIKA AND OXIA"]⟩,
  ⟨0x1FE4, "GREEK SMALL LETTER ", [
    "RHO WITH PSILI|RHO WITH DASIA|UPSILON WITH PERISPOMENI|UPSILON WITH DIALYTIKA AND PERISPOMENI"]⟩,
  ⟨0x1FE8, "GREEK CAPITAL LETTER UPSILON WITH ", ["VRACHY|MACRON|VARIA|OXIA"]⟩,
  ⟨0x1FEC, "GREEK ", ["CAPITAL LETTER RHO WITH DASIA|DIALYTIKA AND VARIA|DIALYTIKA AND OXIA|VARIA"]⟩,
  ⟨0x1FF2, "GREEK SMALL LETTER OMEGA WITH ", ["VARIA AND YPOGEGRAMMENI|YPOGEGRAMMENI|OXIA AND YPOGEGRAMMENI"]⟩,
  ⟨0x1FF6, "GREEK SMALL LETTER OMEGA WITH ", ["PERISPOMENI|PERISPOMENI AND YPOGEGRAMMENI"]⟩,
  ⟨0x1FF8, "GREEK CAPITAL LETTER ", [
    "OMICRON WITH VARIA|OMICRON WITH OXIA|OMEGA WITH VARIA|OMEGA WITH OXIA|OMEGA WITH PROSGEGRAMMENI"]⟩,
  ⟨0x1FFD, "GREEK ", ["OXIA|DASIA"]⟩]

/-- From U+2000 to U+27FF. -/
def from2000 : List NameRun := [
  ⟨0x2000, "", [
    "EN QUAD|EM QUAD|EN SPACE|EM SPACE|THREE-PER-EM SPACE|FOUR-PER-EM SPACE|SIX-PER-EM SPACE|FIGURE SPACE",
    "PUNCTUATION SPACE|THIN SPACE|HAIR SPACE|ZERO WIDTH SPACE|ZERO WIDTH NON-JOINER|ZERO WIDTH JOINER",
    "LEFT-TO-RIGHT MARK|RIGHT-TO-LEFT MARK|HYPHEN|NON-BREAKING HYPHEN|FIGURE DASH|EN DASH|EM DASH|HORIZONTAL BAR",
    "DOUBLE VERTICAL LINE|DOUBLE LOW LINE|LEFT SINGLE QUOTATION MARK|RIGHT SINGLE QUOTATION MARK",
    "SINGLE LOW-9 QUOTATION MARK|SINGLE HIGH-REVERSED-9 QUOTATION MARK|LEFT DOUBLE QUOTATION MARK",
    "RIGHT DOUBLE QUOTATION MARK|DOUBLE LOW-9 QUOTATION MARK|DOUBLE HIGH-REVERSED-9 QUOTATION MARK|DAGGER",
    "DOUBLE DAGGER|BULLET|TRIANGULAR BULLET|ONE DOT LEADER|TWO DOT LEADER|HORIZONTAL ELLIPSIS|HYPHENATION POINT",
    "LINE SEPARATOR|PARAGRAPH SEPARATOR|LEFT-TO-RIGHT EMBEDDING|RIGHT-TO-LEFT EMBEDDING|POP DIRECTIONAL FORMATTING",
    "LEFT-TO-RIGHT OVERRIDE|RIGHT-TO-LEFT OVERRIDE|NARROW NO-BREAK SPACE|PER MILLE SIGN|PER TEN THOUSAND SIGN|PRIME",
    "DOUBLE PRIME|TRIPLE PRIME|REVERSED PRIME|REVERSED DOUBLE PRIME|REVERSED TRIPLE PRIME|CARET",
    "SINGLE LEFT-POINTING ANGLE QUOTATION MARK|SINGLE RIGHT-POINTING ANGLE QUOTATION MARK|REFERENCE MARK",
    "DOUBLE EXCLAMATION MARK|INTERROBANG|OVERLINE|UNDERTIE|CHARACTER TIE|CARET INSERTION POINT|ASTERISM",
    "HYPHEN BULLET|FRACTION SLASH|LEFT SQUARE BRACKET WITH QUILL|RIGHT SQUARE BRACKET WITH QUILL",
    "DOUBLE QUESTION MARK|QUESTION EXCLAMATION MARK|EXCLAMATION QUESTION MARK|TIRONIAN SIGN ET",
    "REVERSED PILCROW SIGN|BLACK LEFTWARDS BULLET|BLACK RIGHTWARDS BULLET|LOW ASTERISK|REVERSED SEMICOLON|CLOSE UP",
    "TWO ASTERISKS ALIGNED VERTICALLY|COMMERCIAL MINUS SIGN|SWUNG DASH|INVERTED UNDERTIE|FLOWER PUNCTUATION MARK",
    "THREE DOT PUNCTUATION|QUADRUPLE PRIME|FOUR DOT PUNCTUATION|FIVE DOT PUNCTUATION|TWO DOT PUNCTUATION",
    "FOUR DOT MARK|DOTTED CROSS|TRICOLON|VERTICAL FOUR DOTS|MEDIUM MATHEMATICAL SPACE|WORD JOINER",
    "FUNCTION APPLICATION"]⟩,
  ⟨0x2062, "INVISIBLE ", ["TIMES|SEPARATOR|PLUS"]⟩,
  ⟨0x2066, "", [
    "LEFT-TO-RIGHT ISOLATE|RIGHT-TO-LEFT ISOLATE|FIRST STRONG ISOLATE|POP DIRECTIONAL ISOLATE",
    "INHIBIT SYMMETRIC SWAPPING|ACTIVATE SYMMETRIC SWAPPING|INHIBIT ARABIC FORM SHAPING",
    "ACTIVATE ARABIC FORM SHAPING|NATIONAL DIGIT SHAPES|NOMINAL DIGIT SHAPES|SUPERSCRIPT ZERO",
    "SUPERSCRIPT LATIN SMALL LETTER I"]⟩,
  ⟨0x2074, "SUPERSCRIPT ", [
    "FOUR|FIVE|SIX|SEVEN|EIGHT|NINE|PLUS SIGN|MINUS|EQUALS SIGN|LEFT PARENTHESIS|RIGHT PARENTHESIS",
    "LATIN SMALL LETTER N"]⟩,
  ⟨0x2080, "SUBSCRIPT ", [
    "ZERO|ONE|TWO|THREE|FOUR|FIVE|SIX|SEVEN|EIGHT|NINE|PLUS SIGN|MINUS|EQUALS SIGN|LEFT PARENTHESIS",
    "RIGHT PARENTHESIS"]⟩,
  ⟨0x2090, "LATIN SUBSCRIPT SMALL LETTER ", ["A|E|O|X|SCHWA|H|K|L|M|N|P|S|T"]⟩,
  ⟨0x20A0, "", [
    "EURO-CURRENCY SIGN|COLON SIGN|CRUZEIRO SIGN|FRENCH FRANC SIGN|LIRA SIGN|MILL SIGN|NAIRA SIGN|PESETA SIGN",
    "RUPEE SIGN|WON SIGN|NEW SHEQEL SIGN|DONG SIGN|EURO SIGN|KIP SIGN|TUGRIK SIGN|DRACHMA SIGN|GERMAN PENNY SIGN",
    "PESO SIGN|GUARANI SIGN|AUSTRAL SIGN|HRYVNIA SIGN|CEDI SIGN|LIVRE TOURNOIS SIGN|SPESMILO SIGN|TENGE SIGN",
    "INDIAN RUPEE SIGN|TURKISH LIRA SIGN|NORDIC MARK SIGN|MANAT SIGN|RUBLE SIGN|LARI SIGN|BITCOIN SIGN|SOM SIGN"]⟩,
  ⟨0x20D0, "COMBINING ", [
    "LEFT HARPOON ABOVE|RIGHT HARPOON ABOVE|LONG VERTICAL LINE OVERLAY|SHORT VERTICAL LINE OVERLAY",
    "ANTICLOCKWISE ARROW ABOVE|CLOCKWISE ARROW ABOVE|LEFT ARROW ABOVE|RIGHT ARROW ABOVE|RING OVERLAY",
    "CLOCKWISE RING OVERLAY|ANTICLOCKWISE RING OVERLAY|THREE DOTS ABOVE|FOUR DOTS ABOVE|ENCLOSING CIRCLE",
    "ENCLOSING SQUARE|ENCLOSING DIAMOND|ENCLOSING CIRCLE BACKSLASH|LEFT RIGHT ARROW ABOVE|ENCLOSING SCREEN",
    "ENCLOSING KEYCAP|ENCLOSING UPWARD POINTING TRIANGLE|REVERSE SOLIDUS OVERLAY|DOUBLE VERTICAL STROKE OVERLAY",
    "ANNUITY SYMBOL|TRIPLE UNDERDOT|WIDE BRIDGE ABOVE|LEFTWARDS ARROW OVERLAY|LONG DOUBLE SOLIDUS OVERLAY",
    "RIGHTWARDS HARPOON WITH BARB DOWNWARDS|LEFTWARDS HARPOON WITH BARB DOWNWARDS|LEFT ARROW BELOW",
    "RIGHT ARROW BELOW|ASTERISK ABOVE"]⟩,
  ⟨0x2100, "", [
    "ACCOUNT OF|ADDRESSED TO THE SUBJECT|DOUBLE-STRUCK CAPITAL C|DEGREE CELSIUS|CENTRE LINE SYMBOL|CARE OF|CADA UNA",
    "EULER CONSTANT|SCRUPLE|DEGREE FAHRENHEIT|SCRIPT SMALL G|SCRIPT CAPITAL H|BLACK-LETTER CAPITAL H",
    "DOUBLE-STRUCK CAPITAL H|PLANCK CONSTANT|PLANCK CONSTANT OVER TWO PI|SCRIPT CAPITAL I|BLACK-LETTER CAPITAL I",
    "SCRIPT CAPITAL L|SCRIPT SMALL L|L B BAR SYMBOL|DOUBLE-STRUCK CAPITAL N|NUMERO SIGN|SOUND RECORDING COPYRIGHT",
    "SCRIPT CAPITAL P|DOUBLE-STRUCK CAPITAL P|DOUBLE-STRUCK CAPITAL Q|SCRIPT CAPITAL R|BLACK-LETTER CAPITAL R",
    "DOUBLE-STRUCK CAPITAL R|PRESCRIPTION TAKE|RESPONSE|SERVICE MARK|TELEPHONE SIGN|TRADE MARK SIGN|VERSICLE",
    "DOUBLE-STRUCK CAPITAL Z|OUNCE SIGN|OHM SIGN|INVERTED OHM SIGN|BLACK-LETTER CAPITAL Z",
    "TURNED GREEK SMALL LETTER IOTA|KELVIN SIGN|ANGSTROM SIGN|SCRIPT CAPITAL B|BLACK-LETTER CAPITAL C",
    "ESTIMATED SYMBOL|SCRIPT SMALL E|SCRIPT CAPITAL E|SCRIPT CAPITAL F|TURNED CAPITAL F|SCRIPT CAPITAL M",
    "SCRIPT SMALL O|ALEF SYMBOL|BET SYMBOL|GIMEL SYMBOL|DALET SYMBOL|INFORMATION SOURCE|ROTATED CAPITAL Q",
    "FACSIMILE SIGN"]⟩,
  ⟨0x213C, "DOUBLE-STRUCK ", ["SMALL PI|SMALL GAMMA|CAPITAL GAMMA|CAPITAL PI|N-ARY SUMMATION"]⟩,
  ⟨0x2141, "TURNED SANS-SERIF CAPITAL ", ["G|L"]⟩,
  ⟨0x2143, "", ["REVERSED SANS-SERIF CAPITAL L|TURNED SANS-SERIF CAPITAL Y"]⟩,
  ⟨0x2145, "DOUBLE-STRUCK ITALIC ", ["CAPITAL D|SMALL D|SMALL E|SMALL I|SMALL J"]⟩,
  ⟨0x214A, "", ["PROPERTY LINE|TURNED AMPERSAND|PER SIGN|AKTIESELSKAB|TURNED SMALL F|SYMBOL FOR SAMARITAN SOURCE"]⟩,
  ⟨0x2150, "VULGAR FRACTION ", [
    "ONE SEVENTH|ONE NINTH|ONE TENTH|ONE THIRD|TWO THIRDS|ONE FIFTH|TWO FIFTHS|THREE FIFTHS|FOUR FIFTHS|ONE SIXTH",
    "FIVE SIXTHS|ONE EIGHTH|THREE EIGHTHS|FIVE EIGHTHS|SEVEN EIGHTHS"]⟩,
  ⟨0x215F, "FRACTION NUMERATOR ONE", [""]⟩,
  ⟨0x2160, "ROMAN NUMERAL ", [
    "ONE|TWO|THREE|FOUR|FIVE|SIX|SEVEN|EIGHT|NINE|TEN|ELEVEN|TWELVE|FIFTY|ONE HUNDRED|FIVE HUNDRED|ONE THOUSAND"]⟩,
  ⟨0x2170, "SMALL ROMAN NUMERAL ", [
    "ONE|TWO|THREE|FOUR|FIVE|SIX|SEVEN|EIGHT|NINE|TEN|ELEVEN|TWELVE|FIFTY|ONE HUNDRED|FIVE HUNDRED|ONE THOUSAND"]⟩,
  ⟨0x2180, "ROMAN NUMERAL ", ["ONE THOUSAND C D|FIVE THOUSAND|TEN THOUSAND|REVERSED ONE HUNDRED"]⟩,
  ⟨0x2184, "LATIN SMALL LETTER REVERSED C", [""]⟩,
  ⟨0x2185, "ROMAN NUMERAL ", ["SIX LATE FORM|FIFTY EARLY FORM|FIFTY THOUSAND|ONE HUNDRED THOUSAND"]⟩,
  ⟨0x2189, "", ["VULGAR FRACTION ZERO THIRDS|TURNED DIGIT TWO|TURNED DIGIT THREE"]⟩,
  ⟨0x2190, "", [
    "LEFTWARDS ARROW|UPWARDS ARROW|RIGHTWARDS ARROW|DOWNWARDS ARROW|LEFT RIGHT ARROW|UP DOWN ARROW|NORTH WEST ARROW",
    "NORTH EAST ARROW|SOUTH EAST ARROW|SOUTH WEST ARROW|LEFTWARDS ARROW WITH STROKE|RIGHTWARDS ARROW WITH STROKE",
    "LEFTWARDS WAVE ARROW|RIGHTWARDS WAVE ARROW|LEFTWARDS TWO HEADED ARROW|UPWARDS TWO HEADED ARROW",
    "RIGHTWARDS TWO HEADED ARROW|DOWNWARDS TWO HEADED ARROW|LEFTWARDS ARROW WITH TAIL|RIGHTWARDS ARROW WITH TAIL",
    "LEFTWARDS ARROW FROM BAR|UPWARDS ARROW FROM BAR|RIGHTWARDS ARROW FROM BAR|DOWNWARDS ARROW FROM BAR",
    "UP DOWN ARROW WITH BASE|LEFTWARDS ARROW WITH HOOK|RIGHTWARDS ARROW WITH HOOK|LEFTWARDS ARROW WITH LOOP",
    "RIGHTWARDS ARROW WITH LOOP|LEFT RIGHT WAVE ARROW|LEFT RIGHT ARROW WITH STROKE|DOWNWARDS ZIGZAG ARROW"]⟩,
  ⟨0x21B0, "UPWARDS ARROW WITH TIP ", ["LEFTWARDS|RIGHTWARDS"]⟩,
  ⟨0x21B2, "DOWNWARDS ARROW WITH TIP ", ["LEFTWARDS|RIGHTWARDS"]⟩,
  ⟨0x21B4, "", [
    "RIGHTWARDS ARROW WITH CORNER DOWNWARDS|DOWNWARDS ARROW WITH CORNER LEFTWARDS",
    "ANTICLOCKWISE TOP SEMICIRCLE ARROW|CLOCKWISE TOP SEMICIRCLE ARROW|NORTH WEST ARROW TO LONG BAR",
    "LEFTWARDS ARROW TO BAR OVER RIGHTWARDS ARROW TO BAR|ANTICLOCKWISE OPEN CIRCLE ARROW",
    "CLOCKWISE OPEN CIRCLE ARROW"]⟩,
  ⟨0x21BC, "LEFTWARDS HARPOON WITH BARB ", ["UPWARDS|DOWNWARDS"]⟩,
  ⟨0x21BE, "UPWARDS HARPOON WITH BARB ", ["RIGHTWARDS|LEFTWARDS"]⟩,
  ⟨0x21C0, "RIGHTWARDS HARPOON WITH BARB ", ["UPWARDS|DOWNWARDS"]⟩,
  ⟨0x21C2, "DOWNWARDS HARPOON WITH BARB ", ["RIGHTWARDS|LEFTWARDS"]⟩,
  ⟨0x21C4, "", [
    "RIGHTWARDS ARROW OVER LEFTWARDS ARROW|UPWARDS ARROW LEFTWARDS OF DOWNWARDS ARROW",
    "LEFTWARDS ARROW OVER RIGHTWARDS ARROW|LEFTWARDS PAIRED ARROWS|UPWARDS PAIRED ARROWS|RIGHTWARDS PAIRED ARROWS",
    "DOWNWARDS PAIRED ARROWS|LEFTWARDS HARPOON OVER RIGHTWARDS HARPOON|RIGHTWARDS HARPOON OVER LEFTWARDS HARPOON",
    "LEFTWARDS DOUBLE ARROW WITH STROKE|LEFT RIGHT DOUBLE ARROW WITH STROKE|RIGHTWARDS DOUBLE ARROW WITH STROKE",
    "LEFTWARDS DOUBLE ARROW|UPWARDS DOUBLE ARROW|RIGHTWARDS DOUBLE ARROW|DOWNWARDS DOUBLE ARROW",
    "LEFT RIGHT DOUBLE ARROW|UP DOWN DOUBLE ARROW|NORTH WEST DOUBLE ARROW|NORTH EAST DOUBLE ARROW",
    "SOUTH EAST DOUBLE ARROW|SOUTH WEST DOUBLE ARROW|LEFTWARDS TRIPLE ARROW|RIGHTWARDS TRIPLE ARROW",
    "LEFTWARDS SQUIGGLE ARROW|RIGHTWARDS SQUIGGLE ARROW|UPWARDS ARROW WITH DOUBLE STROKE",
    "DOWNWARDS ARROW WITH DOUBLE STROKE|LEFTWARDS DASHED ARROW|UPWARDS DASHED ARROW|RIGHTWARDS DASHED ARROW",
    "DOWNWARDS DASHED ARROW|LEFTWARDS ARROW TO BAR|RIGHTWARDS ARROW TO BAR|LEFTWARDS WHITE ARROW",
    "UPWARDS WHITE ARROW|RIGHTWARDS WHITE ARROW|DOWNWARDS WHITE ARROW"]⟩,
  ⟨0x21EA, "UPWARDS WHITE ", [
    "ARROW FROM BAR|ARROW ON PEDESTAL|ARROW ON PEDESTAL WITH HORIZONTAL BAR|ARROW ON PEDESTAL WITH VERTICAL BAR",
    "DOUBLE ARROW|DOUBLE ARROW ON PEDESTAL"]⟩,
  ⟨0x21F0, "", [
    "RIGHTWARDS WHITE ARROW FROM WALL|NORTH WEST ARROW TO CORNER|SOUTH EAST ARROW TO CORNER|UP DOWN WHITE ARROW",
    "RIGHT ARROW WITH SMALL CIRCLE|DOWNWARDS ARROW LEFTWARDS OF UPWARDS ARROW|THREE RIGHTWARDS ARROWS",
    "LEFTWARDS ARROW WITH VERTICAL STROKE|RIGHTWARDS ARROW WITH VERTICAL STROKE",
    "LEFT RIGHT ARROW WITH VERTICAL STROKE|LEFTWARDS ARROW WITH DOUBLE VERTICAL STROKE",
    "RIGHTWARDS ARROW WITH DOUBLE VERTICAL STROKE|LEFT RIGHT ARROW WITH DOUBLE VERTICAL STROKE",
    "LEFTWARDS OPEN-HEADED ARROW|RIGHTWARDS OPEN-HEADED ARROW|LEFT RIGHT OPEN-HEADED ARROW|FOR ALL|COMPLEMENT",
    "PARTIAL DIFFERENTIAL|THERE EXISTS|THERE DOES NOT EXIST|EMPTY SET|INCREMENT|NABLA|ELEMENT OF|NOT AN ELEMENT OF",
    "SMALL ELEMENT OF|CONTAINS AS MEMBER|DOES NOT CONTAIN AS MEMBER|SMALL CONTAINS AS MEMBER|END OF PROOF",
    "N-ARY PRODUCT|N-ARY COPRODUCT|N-ARY SUMMATION|MINUS SIGN|MINUS-OR-PLUS SIGN|DOT PLUS|DIVISION SLASH|SET MINUS",
    "ASTERISK OPERATOR|RING OPERATOR|BULLET OPERATOR|SQUARE ROOT|CUBE ROOT|FOURTH ROOT|PROPORTIONAL TO|INFINITY",
    "RIGHT ANGLE|ANGLE|MEASURED ANGLE|SPHERICAL ANGLE|DIVIDES|DOES NOT DIVIDE|PARALLEL TO|NOT PARALLEL TO",
    "LOGICAL AND|LOGICAL OR|INTERSECTION|UNION|INTEGRAL|DOUBLE INTEGRAL|TRIPLE INTEGRAL|CONTOUR INTEGRAL",
    "SURFACE INTEGRAL|VOLUME INTEGRAL|CLOCKWISE INTEGRAL|CLOCKWISE CONTOUR INTEGRAL|ANTICLOCKWISE CONTOUR INTEGRAL",
    "THEREFORE|BECAUSE|RATIO|PROPORTION|DOT MINUS|EXCESS|GEOMETRIC PROPORTION|HOMOTHETIC|TILDE OPERATOR",
    "REVERSED TILDE|INVERTED LAZY S|SINE WAVE|WREATH PRODUCT|NOT TILDE|MINUS TILDE|ASYMPTOTICALLY EQUAL TO",
    "NOT ASYMPTOTICALLY EQUAL TO|APPROXIMATELY EQUAL TO|APPROXIMATELY BUT NOT ACTUALLY EQUAL TO",
    "NEITHER APPROXIMATELY NOR ACTUALLY EQUAL TO|ALMOST EQUAL TO|NOT ALMOST EQUAL TO|ALMOST EQUAL OR EQUAL TO",
    "TRIPLE TILDE|ALL EQUAL TO|EQUIVALENT TO|GEOMETRICALLY EQUIVALENT TO|DIFFERENCE BETWEEN|APPROACHES THE LIMIT",
    "GEOMETRICALLY EQUAL TO|APPROXIMATELY EQUAL TO OR THE IMAGE OF|IMAGE OF OR APPROXIMATELY EQUAL TO|COLON EQUALS",
    "EQUALS COLON|RING IN EQUAL TO|RING EQUAL TO|CORRESPONDS TO|ESTIMATES|EQUIANGULAR TO|STAR EQUALS|DELTA EQUAL TO",
    "EQUAL TO BY DEFINITION|MEASURED BY|QUESTIONED EQUAL TO|NOT EQUAL TO|IDENTICAL TO|NOT IDENTICAL TO",
    "STRICTLY EQUIVALENT TO|LESS-THAN OR EQUAL TO|GREATER-THAN OR EQUAL TO|LESS-THAN OVER EQUAL TO",
    "GREATER-THAN OVER EQUAL TO|LESS-THAN BUT NOT EQUAL TO|GREATER-THAN BUT NOT EQUAL TO|MUCH LESS-THAN",
    "MUCH GREATER-THAN|BETWEEN|NOT EQUIVALENT TO|NOT LESS-THAN|NOT GREATER-THAN|NEITHER LESS-THAN NOR EQUAL TO",
    "NEITHER GREATER-THAN NOR EQUAL TO|LESS-THAN OR EQUIVALENT TO|GREATER-THAN OR EQUIVALENT TO",
    "NEITHER LESS-THAN NOR EQUIVALENT TO|NEITHER GREATER-THAN NOR EQUIVALENT TO|LESS-THAN OR GREATER-THAN",
    "GREATER-THAN OR LESS-THAN|NEITHER LESS-THAN NOR GREATER-THAN|NEITHER GREATER-THAN NOR LESS-THAN|PRECEDES",
    "SUCCEEDS|PRECEDES OR EQUAL TO|SUCCEEDS OR EQUAL TO|PRECEDES OR EQUIVALENT TO|SUCCEEDS OR EQUIVALENT TO",
    "DOES NOT PRECEDE|DOES NOT SUCCEED|SUBSET OF|SUPERSET OF|NOT A SUBSET OF|NOT A SUPERSET OF",
    "SUBSET OF OR EQUAL TO|SUPERSET OF OR EQUAL TO|NEITHER A SUBSET OF NOR EQUAL TO",
    "NEITHER A SUPERSET OF NOR EQUAL TO|SUBSET OF WITH NOT EQUAL TO|SUPERSET OF WITH NOT EQUAL TO|MULTISET",
    "MULTISET MULTIPLICATION|MULTISET UNION"]⟩,
  ⟨0x228F, "SQUARE ", ["IMAGE OF|ORIGINAL OF|IMAGE OF OR EQUAL TO|ORIGINAL OF OR EQUAL TO|CAP|CUP"]⟩,
  ⟨0x2295, "CIRCLED ", ["PLUS|MINUS|TIMES|DIVISION SLASH|DOT OPERATOR|RING OPERATOR|ASTERISK OPERATOR|EQUALS|DASH"]⟩,
  ⟨0x229E, "SQUARED ", ["PLUS|MINUS|TIMES|DOT OPERATOR"]⟩,
  ⟨0x22A2, "", [
    "RIGHT TACK|LEFT TACK|DOWN TACK|UP TACK|ASSERTION|MODELS|TRUE|FORCES|TRIPLE VERTICAL BAR RIGHT TURNSTILE",
    "DOUBLE VERTICAL BAR DOUBLE RIGHT TURNSTILE|DOES NOT PROVE|NOT TRUE|DOES NOT FORCE",
    "NEGATED DOUBLE VERTICAL BAR DOUBLE RIGHT TURNSTILE|PRECEDES UNDER RELATION|SUCCEEDS UNDER RELATION",
    "NORMAL SUBGROUP OF|CONTAINS AS NORMAL SUBGROUP|NORMAL SUBGROUP OF OR EQUAL TO",
    "CONTAINS AS NORMAL SUBGROUP OR EQUAL TO|ORIGINAL OF|IMAGE OF|MULTIMAP|HERMITIAN CONJUGATE MATRIX|INTERCALATE",
    "XOR|NAND|NOR|RIGHT ANGLE WITH ARC|RIGHT TRIANGLE|N-ARY LOGICAL AND|N-ARY LOGICAL OR|N-ARY INTERSECTION",
    "N-ARY UNION|DIAMOND OPERATOR|DOT OPERATOR|STAR OPERATOR|DIVISION TIMES|BOWTIE",
    "LEFT NORMAL FACTOR SEMIDIRECT PRODUCT|RIGHT NORMAL FACTOR SEMIDIRECT PRODUCT|LEFT SEMIDIRECT PRODUCT",
    "RIGHT SEMIDIRECT PRODUCT|REVERSED TILDE EQUALS|CURLY LOGICAL OR|CURLY LOGICAL AND|DOUBLE SUBSET",
    "DOUBLE SUPERSET|DOUBLE INTERSECTION|DOUBLE UNION|PITCHFORK|EQUAL AND PARALLEL TO|LESS-THAN WITH DOT",
    "GREATER-THAN WITH DOT|VERY MUCH LESS-THAN|VERY MUCH GREATER-THAN|LESS-THAN EQUAL TO OR GREATER-THAN",
    "GREATER-THAN EQUAL TO OR LESS-THAN"]⟩,
  ⟨0x22DC, "EQUAL TO OR ", ["LESS-THAN|GREATER-THAN|PRECEDES|SUCCEEDS"]⟩,
  ⟨0x22E0, "", [
    "DOES NOT PRECEDE OR EQUAL|DOES NOT SUCCEED OR EQUAL|NOT SQUARE IMAGE OF OR EQUAL TO",
    "NOT SQUARE ORIGINAL OF OR EQUAL TO|SQUARE IMAGE OF OR NOT EQUAL TO|SQUARE ORIGINAL OF OR NOT EQUAL TO",
    "LESS-THAN BUT NOT EQUIVALENT TO|GREATER-THAN BUT NOT EQUIVALENT TO|PRECEDES BUT NOT EQUIVALENT TO",
    "SUCCEEDS BUT NOT EQUIVALENT TO|NOT NORMAL SUBGROUP OF|DOES NOT CONTAIN AS NORMAL SUBGROUP",
    "NOT NORMAL SUBGROUP OF OR EQUAL TO|DOES NOT CONTAIN AS NORMAL SUBGROUP OR EQUAL|VERTICAL ELLIPSIS",
    "MIDLINE HORIZONTAL ELLIPSIS|UP RIGHT DIAGONAL ELLIPSIS|DOWN RIGHT DIAGONAL ELLIPSIS",
    "ELEMENT OF WITH LONG HORIZONTAL STROKE|ELEMENT OF WITH VERTICAL BAR AT END OF HORIZONTAL STROKE",
    "SMALL ELEMENT OF WITH VERTICAL BAR AT END OF HORIZONTAL STROKE|ELEMENT OF WITH DOT ABOVE",
    "ELEMENT OF WITH OVERBAR|SMALL ELEMENT OF WITH OVERBAR|ELEMENT OF WITH UNDERBAR",
    "ELEMENT OF WITH TWO HORIZONTAL STROKES|CONTAINS WITH LONG HORIZONTAL STROKE",
    "CONTAINS WITH VERTICAL BAR AT END OF HORIZONTAL STROKE",
    "SMALL CONTAINS WITH VERTICAL BAR AT END OF HORIZONTAL STROKE|CONTAINS WITH OVERBAR|SMALL CONTAINS WITH OVERBAR",
    "Z NOTATION BAG MEMBERSHIP|DIAMETER SIGN|ELECTRIC ARROW|HOUSE|UP ARROWHEAD|DOWN ARROWHEAD|PROJECTIVE",
    "PERSPECTIVE|WAVY LINE|LEFT CEILING|RIGHT CEILING|LEFT FLOOR|RIGHT FLOOR|BOTTOM RIGHT CROP|BOTTOM LEFT CROP",
    "TOP RIGHT CROP|TOP LEFT CROP|REVERSED NOT SIGN|SQUARE LOZENGE|ARC|SEGMENT|SECTOR|TELEPHONE RECORDER",
    "POSITION INDICATOR|VIEWDATA SQUARE|PLACE OF INTEREST SIGN|TURNED NOT SIGN|WATCH|HOURGLASS|TOP LEFT CORNER",
    "TOP RIGHT CORNER|BOTTOM LEFT CORNER|BOTTOM RIGHT CORNER|TOP HALF INTEGRAL|BOTTOM HALF INTEGRAL|FROWN|SMILE",
    "UP ARROWHEAD BETWEEN TWO HORIZONTAL BARS|OPTION KEY|ERASE TO THE RIGHT|X IN A RECTANGLE BOX|KEYBOARD",
    "LEFT-POINTING ANGLE BRACKET|RIGHT-POINTING ANGLE BRACKET|ERASE TO THE LEFT|BENZENE RING|CYLINDRICITY",
    "ALL AROUND-PROFILE|SYMMETRY|TOTAL RUNOUT|DIMENSION ORIGIN|CONICAL TAPER|SLOPE|COUNTERBORE|COUNTERSINK"]⟩,
  ⟨0x2336, "APL FUNCTIONAL SYMBOL ", [
    "I-BEAM|SQUISH QUAD|QUAD EQUAL|QUAD DIVIDE|QUAD DIAMOND|QUAD JOT|QUAD CIRCLE|CIRCLE STILE|CIRCLE JOT|SLASH BAR",
    "BACKSLASH BAR|QUAD SLASH|QUAD BACKSLASH|QUAD LESS-THAN|QUAD GREATER-THAN|LEFTWARDS VANE|RIGHTWARDS VANE",
    "QUAD LEFTWARDS ARROW|QUAD RIGHTWARDS ARROW|CIRCLE BACKSLASH|DOWN TACK UNDERBAR|DELTA STILE|QUAD DOWN CARET",
    "QUAD DELTA|DOWN TACK JOT|UPWARDS VANE|QUAD UPWARDS ARROW|UP TACK OVERBAR|DEL STILE|QUAD UP CARET|QUAD DEL",
    "UP TACK JOT|DOWNWARDS VANE|QUAD DOWNWARDS ARROW|QUOTE UNDERBAR|DELTA UNDERBAR|DIAMOND UNDERBAR|JOT UNDERBAR",
    "CIRCLE UNDERBAR|UP SHOE JOT|QUOTE QUAD|CIRCLE STAR|QUAD COLON|UP TACK DIAERESIS|DEL DIAERESIS|STAR DIAERESIS",
    "JOT DIAERESIS|CIRCLE DIAERESIS|DOWN SHOE STILE|LEFT SHOE STILE|TILDE DIAERESIS|GREATER-THAN DIAERESIS",
    "COMMA BAR|DEL TILDE|ZILDE|STILE TILDE|SEMICOLON UNDERBAR|QUAD NOT EQUAL|QUAD QUESTION|DOWN CARET TILDE",
    "UP CARET TILDE|IOTA|RHO|OMEGA|ALPHA UNDERBAR|EPSILON UNDERBAR|IOTA UNDERBAR|OMEGA UNDERBAR|ALPHA"]⟩,
  ⟨0x237B, "", [
    "NOT CHECK MARK|RIGHT ANGLE WITH DOWNWARDS ZIGZAG ARROW|SHOULDERED OPEN BOX|BELL SYMBOL",
    "VERTICAL LINE WITH MIDDLE DOT|INSERTION SYMBOL|CONTINUOUS UNDERLINE SYMBOL|DISCONTINUOUS UNDERLINE SYMBOL",
    "EMPHASIS SYMBOL|COMPOSITION SYMBOL|WHITE SQUARE WITH CENTRE VERTICAL LINE|ENTER SYMBOL|ALTERNATIVE KEY SYMBOL",
    "HELM SYMBOL|CIRCLED HORIZONTAL BAR WITH NOTCH|CIRCLED TRIANGLE DOWN|BROKEN CIRCLE WITH NORTHWEST ARROW",
    "UNDO SYMBOL|MONOSTABLE SYMBOL|HYSTERESIS SYMBOL|OPEN-CIRCUIT-OUTPUT H-TYPE SYMBOL",
    "OPEN-CIRCUIT-OUTPUT L-TYPE SYMBOL|PASSIVE-PULL-DOWN-OUTPUT SYMBOL|PASSIVE-PULL-UP-OUTPUT SYMBOL",
    "DIRECT CURRENT SYMBOL FORM TWO|SOFTWARE-FUNCTION SYMBOL|APL FUNCTIONAL SYMBOL QUAD",
    "DECIMAL SEPARATOR KEY SYMBOL|PREVIOUS PAGE|NEXT PAGE|PRINT SCREEN SYMBOL|CLEAR SCREEN SYMBOL"]⟩,
  ⟨0x239B, "LEFT PARENTHESIS ", ["UPPER HOOK|EXTENSION|LOWER HOOK"]⟩,
  ⟨0x239E, "RIGHT PARENTHESIS ", ["UPPER HOOK|EXTENSION|LOWER HOOK"]⟩,
  ⟨0x23A1, "LEFT SQUARE BRACKET ", ["UPPER CORNER|EXTENSION|LOWER CORNER"]⟩,
  ⟨0x23A4, "RIGHT SQUARE BRACKET ", ["UPPER CORNER|EXTENSION|LOWER CORNER"]⟩,
  ⟨0x23A7, "LEFT CURLY BRACKET ", ["UPPER HOOK|MIDDLE PIECE|LOWER HOOK"]⟩,
  ⟨0x23AA, "CURLY BRACKET EXTENSION", [""]⟩,
  ⟨0x23AB, "RIGHT CURLY BRACKET ", ["UPPER HOOK|MIDDLE PIECE|LOWER HOOK"]⟩,
  ⟨0x23AE, "", [
    "INTEGRAL EXTENSION|HORIZONTAL LINE EXTENSION|UPPER LEFT OR LOWER RIGHT CURLY BRACKET SECTION",
    "UPPER RIGHT OR LOWER LEFT CURLY BRACKET SECTION|SUMMATION TOP|SUMMATION BOTTOM|TOP SQUARE BRACKET",
    "BOTTOM SQUARE BRACKET|BOTTOM SQUARE BRACKET OVER TOP SQUARE BRACKET|RADICAL SYMBOL BOTTOM",
    "LEFT VERTICAL BOX LINE|RIGHT VERTICAL BOX LINE"]⟩,
  ⟨0x23BA, "HORIZONTAL SCAN LINE-", ["1|3|7|9"]⟩,
  ⟨0x23BE, "DENTISTRY SYMBOL LIGHT ", [
    "VERTICAL AND TOP RIGHT|VERTICAL AND BOTTOM RIGHT|VERTICAL WITH CIRCLE|DOWN AND HORIZONTAL WITH CIRCLE",
    "UP AND HORIZONTAL WITH CIRCLE|VERTICAL WITH TRIANGLE|DOWN AND HORIZONTAL WITH TRIANGLE",
    "UP AND HORIZONTAL WITH TRIANGLE|VERTICAL AND WAVE|DOWN AND HORIZONTAL WITH WAVE|UP AND HORIZONTAL WITH WAVE",
    "DOWN AND HORIZONTAL|UP AND HORIZONTAL|VERTICAL AND TOP LEFT|VERTICAL AND BOTTOM LEFT"]⟩,
  ⟨0x23CD, "", ["SQUARE FOOT|RETURN SYMBOL|EJECT SYMBOL|VERTICAL LINE EXTENSION"]⟩,
  ⟨0x23D1, "METRICAL ", [
    "BREVE|LONG OVER SHORT|SHORT OVER LONG|LONG OVER TWO SHORTS|TWO SHORTS OVER LONG|TWO SHORTS JOINED|TRISEME",
    "TETRASEME|PENTASEME"]⟩,
  ⟨0x23DA, "", [
    "EARTH GROUND|FUSE|TOP PARENTHESIS|BOTTOM PARENTHESIS|TOP CURLY BRACKET|BOTTOM CURLY BRACKET",
    "TOP TORTOISE SHELL BRACKET|BOTTOM TORTOISE SHELL BRACKET|WHITE TRAPEZIUM|BENZENE RING WITH CIRCLE|STRAIGHTNESS",
    "FLATNESS|AC CURRENT|ELECTRICAL INTERSECTION|DECIMAL EXPONENT SYMBOL"]⟩,
  ⟨0x23E9, "BLACK ", [
    "RIGHT-POINTING DOUBLE TRIANGLE|LEFT-POINTING DOUBLE TRIANGLE|UP-POINTING DOUBLE TRIANGLE",
    "DOWN-POINTING DOUBLE TRIANGLE|RIGHT-POINTING DOUBLE TRIANGLE WITH VERTICAL BAR",
    "LEFT-POINTING DOUBLE TRIANGLE WITH VERTICAL BAR|RIGHT-POINTING TRIANGLE WITH DOUBLE VERTICAL BAR"]⟩,
  ⟨0x23F0, "", ["ALARM CLOCK|STOPWATCH|TIMER CLOCK|HOURGLASS WITH FLOWING SAND"]⟩,
  ⟨0x23F4, "BLACK MEDIUM ", [
    "LEFT-POINTING TRIANGLE|RIGHT-POINTING TRIANGLE|UP-POINTING TRIANGLE|DOWN-POINTING TRIANGLE"]⟩,
  ⟨0x23F8, "", [
    "DOUBLE VERTICAL BAR|BLACK SQUARE FOR STOP|BLACK CIRCLE FOR RECORD|POWER SYMBOL|POWER ON-OFF SYMBOL",
    "POWER ON SYMBOL|POWER SLEEP SYMBOL|OBSERVER EYE SYMBOL"]⟩,
  ⟨0x2400, "SYMBOL FOR ", [
    "NULL|START OF HEADING|START OF TEXT|END OF TEXT|END OF TRANSMISSION|ENQUIRY|ACKNOWLEDGE|BELL|BACKSPACE",
    "HORIZONTAL TABULATION|LINE FEED|VERTICAL TABULATION|FORM FEED|CARRIAGE RETURN|SHIFT OUT|SHIFT IN",
    "DATA LINK ESCAPE|DEVICE CONTROL ONE|DEVICE CONTROL TWO|DEVICE CONTROL THREE|DEVICE CONTROL FOUR",
    "NEGATIVE ACKNOWLEDGE|SYNCHRONOUS IDLE|END OF TRANSMISSION BLOCK|CANCEL|END OF MEDIUM|SUBSTITUTE|ESCAPE",
    "FILE SEPARATOR|GROUP SEPARATOR|RECORD SEPARATOR|UNIT SEPARATOR|SPACE|DELETE"]⟩,
  ⟨0x2422, "", ["BLANK SYMBOL|OPEN BOX"]⟩,
  ⟨0x2424, "SYMBOL FOR ", ["NEWLINE|DELETE FORM TWO|SUBSTITUTE FORM TWO"]⟩,
  ⟨0x2440, "OCR ", [
    "HOOK|CHAIR|FORK|INVERTED FORK|BELT BUCKLE|BOW TIE|BRANCH BANK IDENTIFICATION|AMOUNT OF CHECK|DASH",
    "CUSTOMER ACCOUNT NUMBER|DOUBLE BACKSLASH"]⟩,
  ⟨0x2460, "CIRCLED DIGIT ", ["ONE|TWO|THREE|FOUR|FIVE|SIX|SEVEN|EIGHT|NINE"]⟩,
  ⟨0x2469, "CIRCLED NUMBER ", [
    "TEN|ELEVEN|TWELVE|THIRTEEN|FOURTEEN|FIFTEEN|SIXTEEN|SEVENTEEN|EIGHTEEN|NINETEEN|TWENTY"]⟩,
  ⟨0x2474, "PARENTHESIZED DIGIT ", ["ONE|TWO|THREE|FOUR|FIVE|SIX|SEVEN|EIGHT|NINE"]⟩,
  ⟨0x247D, "PARENTHESIZED NUMBER ", [
    "TEN|ELEVEN|TWELVE|THIRTEEN|FOURTEEN|FIFTEEN|SIXTEEN|SEVENTEEN|EIGHTEEN|NINETEEN|TWENTY"]⟩,
  ⟨0x2488, "DIGIT ", [
    "ONE FULL STOP|TWO FULL STOP|THREE FULL STOP|FOUR FULL STOP|FIVE FULL STOP|SIX FULL STOP|SEVEN FULL STOP",
    "EIGHT FULL STOP|NINE FULL STOP"]⟩,
  ⟨0x2491, "NUMBER ", [
    "TEN FULL STOP|ELEVEN FULL STOP|TWELVE FULL STOP|THIRTEEN FULL STOP|FOURTEEN FULL STOP|FIFTEEN FULL STOP",
    "SIXTEEN FULL STOP|SEVENTEEN FULL STOP|EIGHTEEN FULL STOP|NINETEEN FULL STOP|TWENTY FULL STOP"]⟩,
  ⟨0x249C, "PARENTHESIZED LATIN SMALL LETTER ", ["A|B|C|D|E|F|G|H|I|J|K|L|M|N|O|P|Q|R|S|T|U|V|W|X|Y|Z"]⟩,
  ⟨0x24B6, "CIRCLED LATIN CAPITAL LETTER ", ["A|B|C|D|E|F|G|H|I|J|K|L|M|N|O|P|Q|R|S|T|U|V|W|X|Y|Z"]⟩,
  ⟨0x24D0, "CIRCLED LATIN SMALL LETTER ", ["A|B|C|D|E|F|G|H|I|J|K|L|M|N|O|P|Q|R|S|T|U|V|W|X|Y|Z"]⟩,
  ⟨0x24EA, "CIRCLED DIGIT ZERO", [""]⟩,
  ⟨0x24EB, "NEGATIVE CIRCLED NUMBER ", [
    "ELEVEN|TWELVE|THIRTEEN|FOURTEEN|FIFTEEN|SIXTEEN|SEVENTEEN|EIGHTEEN|NINETEEN|TWENTY"]⟩,
  ⟨0x24F5, "DOUBLE CIRCLED DIGIT ", ["ONE|TWO|THREE|FOUR|FIVE|SIX|SEVEN|EIGHT|NINE"]⟩,
  ⟨0x24FE, "", ["DOUBLE CIRCLED NUMBER TEN|NEGATIVE CIRCLED DIGIT ZERO"]⟩,
  ⟨0x2500, "BOX DRAWINGS ", [
    "LIGHT HORIZONTAL|HEAVY HORIZONTAL|LIGHT VERTICAL|HEAVY VERTICAL|LIGHT TRIPLE DASH HORIZONTAL",
    "HEAVY TRIPLE DASH HORIZONTAL|LIGHT TRIPLE DASH VERTICAL|HEAVY TRIPLE DASH VERTICAL",
    "LIGHT QUADRUPLE DASH HORIZONTAL|HEAVY QUADRUPLE DASH HORIZONTAL|LIGHT QUADRUPLE DASH VERTICAL",
    "HEAVY QUADRUPLE DASH VERTICAL|LIGHT DOWN AND RIGHT|DOWN LIGHT AND RIGHT HEAVY|DOWN HEAVY AND RIGHT LIGHT",
    "HEAVY DOWN AND RIGHT|LIGHT DOWN AND LEFT|DOWN LIGHT AND LEFT HEAVY|DOWN HEAVY AND LEFT LIGHT",
    "HEAVY DOWN AND LEFT|LIGHT UP AND RIGHT|UP LIGHT AND RIGHT HEAVY|UP HEAVY AND RIGHT LIGHT|HEAVY UP AND RIGHT",
    "LIGHT UP AND LEFT|UP LIGHT AND LEFT HEAVY|UP HEAVY AND LEFT LIGHT|HEAVY UP AND LEFT|LIGHT VERTICAL AND RIGHT",
    "VERTICAL LIGHT AND RIGHT HEAVY|UP HEAVY AND RIGHT DOWN LIGHT|DOWN HEAVY AND RIGHT UP LIGHT",
    "VERTICAL HEAVY AND RIGHT LIGHT|DOWN LIGHT AND RIGHT UP HEAVY|UP LIGHT AND RIGHT DOWN HEAVY",
    "HEAVY VERTICAL AND RIGHT|LIGHT VERTICAL AND LEFT|VERTICAL LIGHT AND LEFT HEAVY|UP HEAVY AND LEFT DOWN LIGHT",
    "DOWN HEAVY AND LEFT UP LIGHT|VERTICAL HEAVY AND LEFT LIGHT|DOWN LIGHT AND LEFT UP HEAVY",
    "UP LIGHT AND LEFT DOWN HEAVY|HEAVY VERTICAL AND LEFT|LIGHT DOWN AND HORIZONTAL|LEFT HEAVY AND RIGHT DOWN LIGHT",
    "RIGHT HEAVY AND LEFT DOWN LIGHT|DOWN LIGHT AND HORIZONTAL HEAVY|DOWN HEAVY AND HORIZONTAL LIGHT",
    "RIGHT LIGHT AND LEFT DOWN HEAVY|LEFT LIGHT AND RIGHT DOWN HEAVY|HEAVY DOWN AND HORIZONTAL",
    "LIGHT UP AND HORIZONTAL|LEFT HEAVY AND RIGHT UP LIGHT|RIGHT HEAVY AND LEFT UP LIGHT",
    "UP LIGHT AND HORIZONTAL HEAVY|UP HEAVY AND HORIZONTAL LIGHT|RIGHT LIGHT AND LEFT UP HEAVY",
    "LEFT LIGHT AND RIGHT UP HEAVY|HEAVY UP AND HORIZONTAL|LIGHT VERTICAL AND HORIZONTAL",
    "LEFT HEAVY AND RIGHT VERTICAL LIGHT|RIGHT HEAVY AND LEFT VERTICAL LIGHT|VERTICAL LIGHT AND HORIZONTAL HEAVY",
    "UP HEAVY AND DOWN HORIZONTAL LIGHT|DOWN HEAVY AND UP HORIZONTAL LIGHT|VERTICAL HEAVY AND HORIZONTAL LIGHT",
    "LEFT UP HEAVY AND RIGHT DOWN LIGHT|RIGHT UP HEAVY AND LEFT DOWN LIGHT|LEFT DOWN HEAVY AND RIGHT UP LIGHT",
    "RIGHT DOWN HEAVY AND LEFT UP LIGHT|DOWN LIGHT AND UP HORIZONTAL HEAVY|UP LIGHT AND DOWN HORIZONTAL HEAVY",
    "RIGHT LIGHT AND LEFT VERTICAL HEAVY|LEFT LIGHT AND RIGHT VERTICAL HEAVY|HEAVY VERTICAL AND HORIZONTAL",
    "LIGHT DOUBLE DASH HORIZONTAL|HEAVY DOUBLE DASH HORIZONTAL|LIGHT DOUBLE DASH VERTICAL",
    "HEAVY DOUBLE DASH VERTICAL|DOUBLE HORIZONTAL|DOUBLE VERTICAL|DOWN SINGLE AND RIGHT DOUBLE",
    "DOWN DOUBLE AND RIGHT SINGLE|DOUBLE DOWN AND RIGHT|DOWN SINGLE AND LEFT DOUBLE|DOWN DOUBLE AND LEFT SINGLE",
    "DOUBLE DOWN AND LEFT|UP SINGLE AND RIGHT DOUBLE|UP DOUBLE AND RIGHT SINGLE|DOUBLE UP AND RIGHT",
    "UP SINGLE AND LEFT DOUBLE|UP DOUBLE AND LEFT SINGLE|DOUBLE UP AND LEFT|VERTICAL SINGLE AND RIGHT DOUBLE",
    "VERTICAL DOUBLE AND RIGHT SINGLE|DOUBLE VERTICAL AND RIGHT|VERTICAL SINGLE AND LEFT DOUBLE",
    "VERTICAL DOUBLE AND LEFT SINGLE|DOUBLE VERTICAL AND LEFT|DOWN SINGLE AND HORIZONTAL DOUBLE",
    "DOWN DOUBLE AND HORIZONTAL SINGLE|DOUBLE DOWN AND HORIZONTAL|UP SINGLE AND HORIZONTAL DOUBLE",
    "UP DOUBLE AND HORIZONTAL SINGLE|DOUBLE UP AND HORIZONTAL|VERTICAL SINGLE AND HORIZONTAL DOUBLE",
    "VERTICAL DOUBLE AND HORIZONTAL SINGLE|DOUBLE VERTICAL AND HORIZONTAL"]⟩,
  ⟨0x256D, "BOX DRAWINGS LIGHT ", [
    "ARC DOWN AND RIGHT|ARC DOWN AND LEFT|ARC UP AND LEFT|ARC UP AND RIGHT|DIAGONAL UPPER RIGHT TO LOWER LEFT",
    "DIAGONAL UPPER LEFT TO LOWER RIGHT|DIAGONAL CROSS|LEFT|UP|RIGHT|DOWN"]⟩,
  ⟨0x2578, "BOX DRAWINGS ", [
    "HEAVY LEFT|HEAVY UP|HEAVY RIGHT|HEAVY DOWN|LIGHT LEFT AND HEAVY RIGHT|LIGHT UP AND HEAVY DOWN",
    "HEAVY LEFT AND LIGHT RIGHT|HEAVY UP AND LIGHT DOWN"]⟩,
  ⟨0x2580, "UPPER HALF BLOCK", [""]⟩,
  ⟨0x2581, "LOWER ", [
    "ONE EIGHTH BLOCK|ONE QUARTER BLOCK|THREE EIGHTHS BLOCK|HALF BLOCK|FIVE EIGHTHS BLOCK|THREE QUARTERS BLOCK",
    "SEVEN EIGHTHS BLOCK"]⟩,
  ⟨0x2588, "", [
    "FULL BLOCK|LEFT SEVEN EIGHTHS BLOCK|LEFT THREE QUARTERS BLOCK|LEFT FIVE EIGHTHS BLOCK|LEFT HALF BLOCK",
    "LEFT THREE EIGHTHS BLOCK|LEFT ONE QUARTER BLOCK|LEFT ONE EIGHTH BLOCK|RIGHT HALF BLOCK|LIGHT SHADE",
    "MEDIUM SHADE|DARK SHADE|UPPER ONE EIGHTH BLOCK|RIGHT ONE EIGHTH BLOCK|QUADRANT LOWER LEFT|QUADRANT LOWER RIGHT"]⟩,
  ⟨0x2598, "QUADRANT UPPER ", [
    "LEFT|LEFT AND LOWER LEFT AND LOWER RIGHT|LEFT AND LOWER RIGHT|LEFT AND UPPER RIGHT AND LOWER LEFT",
    "LEFT AND UPPER RIGHT AND LOWER RIGHT|RIGHT|RIGHT AND LOWER LEFT|RIGHT AND LOWER LEFT AND LOWER RIGHT"]⟩,
  ⟨0x25A0, "", [
    "BLACK SQUARE|WHITE SQUARE|WHITE SQUARE WITH ROUNDED CORNERS|WHITE SQUARE CONTAINING BLACK SMALL SQUARE"]⟩,
  ⟨0x25A4, "SQUARE WITH ", [
    "HORIZONTAL FILL|VERTICAL FILL|ORTHOGONAL CROSSHATCH FILL|UPPER LEFT TO LOWER RIGHT FILL",
    "UPPER RIGHT TO LOWER LEFT FILL|DIAGONAL CROSSHATCH FILL"]⟩,
  ⟨0x25AA, "", [
    "BLACK SMALL SQUARE|WHITE SMALL SQUARE|BLACK RECTANGLE|WHITE RECTANGLE|BLACK VERTICAL RECTANGLE",
    "WHITE VERTICAL RECTANGLE|BLACK PARALLELOGRAM|WHITE PARALLELOGRAM|BLACK UP-POINTING TRIANGLE",
    "WHITE UP-POINTING TRIANGLE|BLACK UP-POINTING SMALL TRIANGLE|WHITE UP-POINTING SMALL TRIANGLE",
    "BLACK RIGHT-POINTING TRIANGLE|WHITE RIGHT-POINTING TRIANGLE|BLACK RIGHT-POINTING SMALL TRIANGLE",
    "WHITE RIGHT-POINTING SMALL TRIANGLE|BLACK RIGHT-POINTING POINTER|WHITE RIGHT-POINTING POINTER",
    "BLACK DOWN-POINTING TRIANGLE|WHITE DOWN-POINTING TRIANGLE|BLACK DOWN-POINTING SMALL TRIANGLE",
    "WHITE DOWN-POINTING SMALL TRIANGLE|BLACK LEFT-POINTING TRIANGLE|WHITE LEFT-POINTING TRIANGLE",
    "BLACK LEFT-POINTING SMALL TRIANGLE|WHITE LEFT-POINTING SMALL TRIANGLE|BLACK LEFT-POINTING POINTER",
    "WHITE LEFT-POINTING POINTER|BLACK DIAMOND|WHITE DIAMOND|WHITE DIAMOND CONTAINING BLACK SMALL DIAMOND|FISHEYE",
    "LOZENGE|WHITE CIRCLE|DOTTED CIRCLE|CIRCLE WITH VERTICAL FILL|BULLSEYE|BLACK CIRCLE"]⟩,
  ⟨0x25D0, "CIRCLE WITH ", [
    "LEFT HALF BLACK|RIGHT HALF BLACK|LOWER HALF BLACK|UPPER HALF BLACK|UPPER RIGHT QUADRANT BLACK",
    "ALL BUT UPPER LEFT QUADRANT BLACK"]⟩,
  ⟨0x25D6, "", [
    "LEFT HALF BLACK CIRCLE|RIGHT HALF BLACK CIRCLE|INVERSE BULLET|INVERSE WHITE CIRCLE",
    "UPPER HALF INVERSE WHITE CIRCLE|LOWER HALF INVERSE WHITE CIRCLE|UPPER LEFT QUADRANT CIRCULAR ARC",
    "UPPER RIGHT QUADRANT CIRCULAR ARC|LOWER RIGHT QUADRANT CIRCULAR ARC|LOWER LEFT QUADRANT CIRCULAR ARC",
    "UPPER HALF CIRCLE|LOWER HALF CIRCLE|BLACK LOWER RIGHT TRIANGLE|BLACK LOWER LEFT TRIANGLE",
    "BLACK UPPER LEFT TRIANGLE|BLACK UPPER RIGHT TRIANGLE|WHITE BULLET"]⟩,
  ⟨0x25E7, "SQUARE WITH ", [
    "LEFT HALF BLACK|RIGHT HALF BLACK|UPPER LEFT DIAGONAL HALF BLACK|LOWER RIGHT DIAGONAL HALF BLACK"]⟩,
  ⟨0x25EB, "WHITE ", ["SQUARE WITH VERTICAL BISECTING LINE|UP-POINTING TRIANGLE WITH DOT"]⟩,
  ⟨0x25ED, "UP-POINTING TRIANGLE WITH ", ["LEFT HALF BLACK|RIGHT HALF BLACK"]⟩,
  ⟨0x25EF, "LARGE CIRCLE", [""]⟩,
  ⟨0x25F0, "WHITE SQUARE WITH ", [
    "UPPER LEFT QUADRANT|LOWER LEFT QUADRANT|LOWER RIGHT QUADRANT|UPPER RIGHT QUADRANT"]⟩,
  ⟨0x25F4, "WHITE CIRCLE WITH ", [
    "UPPER LEFT QUADRANT|LOWER LEFT QUADRANT|LOWER RIGHT QUADRANT|UPPER RIGHT QUADRANT"]⟩,
  ⟨0x25F8, "", [
    "UPPER LEFT TRIANGLE|UPPER RIGHT TRIANGLE|LOWER LEFT TRIANGLE|WHITE MEDIUM SQUARE|BLACK MEDIUM SQUARE",
    "WHITE MEDIUM SMALL SQUARE|BLACK MEDIUM SMALL SQUARE|LOWER RIGHT TRIANGLE|BLACK SUN WITH RAYS|CLOUD|UMBRELLA",
    "SNOWMAN|COMET|BLACK STAR|WHITE STAR|LIGHTNING|THUNDERSTORM|SUN|ASCENDING NODE|DESCENDING NODE|CONJUNCTION",
    "OPPOSITION|BLACK TELEPHONE|WHITE TELEPHONE|BALLOT BOX|BALLOT BOX WITH CHECK|BALLOT BOX WITH X|SALTIRE",
    "UMBRELLA WITH RAIN DROPS|HOT BEVERAGE|WHITE SHOGI PIECE|BLACK SHOGI PIECE|SHAMROCK",
    "REVERSED ROTATED FLORAL HEART BULLET|BLACK LEFT POINTING INDEX|BLACK RIGHT POINTING INDEX",
    "WHITE LEFT POINTING INDEX|WHITE UP POINTING INDEX|WHITE RIGHT POINTING INDEX|WHITE DOWN POINTING INDEX",
    "SKULL AND CROSSBONES|CAUTION SIGN|RADIOACTIVE SIGN|BIOHAZARD SIGN|CADUCEUS|ANKH|ORTHODOX CROSS|CHI RHO",
    "CROSS OF LORRAINE|CROSS OF JERUSALEM|STAR AND CRESCENT|FARSI SYMBOL|ADI SHAKTI|HAMMER AND SICKLE|PEACE SYMBOL",
    "YIN YANG"]⟩,
  ⟨0x2630, "TRIGRAM FOR ", ["HEAVEN|LAKE|FIRE|THUNDER|WIND|WATER|MOUNTAIN|EARTH"]⟩,
  ⟨0x2638, "", [
    "WHEEL OF DHARMA|WHITE FROWNING FACE|WHITE SMILING FACE|BLACK SMILING FACE|WHITE SUN WITH RAYS",
    "FIRST QUARTER MOON|LAST QUARTER MOON|MERCURY|FEMALE SIGN|EARTH|MALE SIGN|JUPITER|SATURN|URANUS|NEPTUNE|PLUTO",
    "ARIES|TAURUS|GEMINI|CANCER|LEO|VIRGO|LIBRA|SCORPIUS|SAGITTARIUS|CAPRICORN|AQUARIUS|PISCES"]⟩,
  ⟨0x2654, "WHITE CHESS ", ["KING|QUEEN|ROOK|BISHOP|KNIGHT|PAWN"]⟩,
  ⟨0x265A, "BLACK CHESS ", ["KING|QUEEN|ROOK|BISHOP|KNIGHT|PAWN"]⟩,
  ⟨0x2660, "", [
    "BLACK SPADE SUIT|WHITE HEART SUIT|WHITE DIAMOND SUIT|BLACK CLUB SUIT|WHITE SPADE SUIT|BLACK HEART SUIT",
    "BLACK DIAMOND SUIT|WHITE CLUB SUIT|HOT SPRINGS|QUARTER NOTE|EIGHTH NOTE|BEAMED EIGHTH NOTES",
    "BEAMED SIXTEENTH NOTES|MUSIC FLAT SIGN|MUSIC NATURAL SIGN|MUSIC SHARP SIGN|WEST SYRIAC CROSS|EAST SYRIAC CROSS",
    "UNIVERSAL RECYCLING SYMBOL"]⟩,
  ⟨0x2673, "RECYCLING SYMBOL FOR TYPE-", [
    "1 PLASTICS|2 PLASTICS|3 PLASTICS|4 PLASTICS|5 PLASTICS|6 PLASTICS|7 PLASTICS"]⟩,
  ⟨0x267A, "", [
    "RECYCLING SYMBOL FOR GENERIC MATERIALS|BLACK UNIVERSAL RECYCLING SYMBOL|RECYCLED PAPER SYMBOL",
    "PARTIALLY-RECYCLED PAPER SYMBOL|PERMANENT PAPER SIGN|WHEELCHAIR SYMBOL"]⟩,
  ⟨0x2680, "DIE FACE-", ["1|2|3|4|5|6"]⟩,
  ⟨0x2686, "WHITE CIRCLE WITH ", ["DOT RIGHT|TWO DOTS"]⟩,
  ⟨0x2688, "BLACK CIRCLE WITH ", ["WHITE DOT RIGHT|TWO WHITE DOTS"]⟩,
  ⟨0x268A, "MONOGRAM FOR ", ["YANG|YIN"]⟩,
  ⟨0x268C, "DIGRAM FOR ", ["GREATER YANG|LESSER YIN|LESSER YANG|GREATER YIN"]⟩,
  ⟨0x2690, "", [
    "WHITE FLAG|BLACK FLAG|HAMMER AND PICK|ANCHOR|CROSSED SWORDS|STAFF OF AESCULAPIUS|SCALES|ALEMBIC|FLOWER|GEAR",
    "STAFF OF HERMES|ATOM SYMBOL|FLEUR-DE-LIS|OUTLINED WHITE STAR|THREE LINES CONVERGING RIGHT",
    "THREE LINES CONVERGING LEFT|WARNING SIGN|HIGH VOLTAGE SIGN|DOUBLED FEMALE SIGN|DOUBLED MALE SIGN",
    "INTERLOCKED FEMALE AND MALE SIGN|MALE AND FEMALE SIGN|MALE WITH STROKE SIGN",
    "MALE WITH STROKE AND MALE AND FEMALE SIGN|VERTICAL MALE WITH STROKE SIGN|HORIZONTAL MALE WITH STROKE SIGN",
    "MEDIUM WHITE CIRCLE|MEDIUM BLACK CIRCLE|MEDIUM SMALL WHITE CIRCLE|MARRIAGE SYMBOL|DIVORCE SYMBOL",
    "UNMARRIED PARTNERSHIP SYMBOL|COFFIN|FUNERAL URN|NEUTER|CERES|PALLAS|JUNO|VESTA|CHIRON|BLACK MOON LILITH",
    "SEXTILE|SEMISEXTILE|QUINCUNX|SESQUIQUADRATE|SOCCER BALL|BASEBALL|SQUARED KEY|WHITE DRAUGHTS MAN",
    "WHITE DRAUGHTS KING|BLACK DRAUGHTS MAN|BLACK DRAUGHTS KING|SNOWMAN WITHOUT SNOW|SUN BEHIND CLOUD|RAIN",
    "BLACK SNOWMAN|THUNDER CLOUD AND RAIN|TURNED WHITE SHOGI PIECE|TURNED BLACK SHOGI PIECE|WHITE DIAMOND IN SQUARE",
    "CROSSING LANES|DISABLED CAR|OPHIUCHUS|PICK|CAR SLIDING|HELMET WITH WHITE CROSS|CIRCLED CROSSING LANES|CHAINS",
    "NO ENTRY|ALTERNATE ONE-WAY LEFT WAY TRAFFIC|BLACK TWO-WAY LEFT WAY TRAFFIC|WHITE TWO-WAY LEFT WAY TRAFFIC",
    "BLACK LEFT LANE MERGE|WHITE LEFT LANE MERGE|DRIVE SLOW SIGN|HEAVY WHITE DOWN-POINTING TRIANGLE",
    "LEFT CLOSED ENTRY|SQUARED SALTIRE|FALLING DIAGONAL IN WHITE CIRCLE IN BLACK SQUARE|BLACK TRUCK",
    "RESTRICTED LEFT ENTRY-1|RESTRICTED LEFT ENTRY-2|ASTRONOMICAL SYMBOL FOR URANUS",
    "HEAVY CIRCLE WITH STROKE AND TWO DOTS ABOVE|PENTAGRAM|RIGHT-HANDED INTERLACED PENTAGRAM",
    "LEFT-HANDED INTERLACED PENTAGRAM|INVERTED PENTAGRAM|BLACK CROSS ON SHIELD|SHINTO SHRINE|CHURCH|CASTLE",
    "HISTORIC SITE|GEAR WITHOUT HUB|GEAR WITH HANDLES|MAP SYMBOL FOR LIGHTHOUSE|MOUNTAIN|UMBRELLA ON GROUND",
    "FOUNTAIN|FLAG IN HOLE|FERRY|SAILBOAT|SQUARE FOUR CORNERS|SKIER|ICE SKATE|PERSON WITH BALL|TENT",
    "JAPANESE BANK SYMBOL|HEADSTONE GRAVEYARD SYMBOL|FUEL PUMP|CUP ON BLACK SQUARE",
    "WHITE FLAG WITH HORIZONTAL MIDDLE BLACK STRIPE|BLACK SAFETY SCISSORS|UPPER BLADE SCISSORS|BLACK SCISSORS",
    "LOWER BLADE SCISSORS|WHITE SCISSORS|WHITE HEAVY CHECK MARK|TELEPHONE LOCATION SIGN|TAPE DRIVE|AIRPLANE",
    "ENVELOPE|RAISED FIST|RAISED HAND|VICTORY HAND|WRITING HAND|LOWER RIGHT PENCIL|PENCIL|UPPER RIGHT PENCIL",
    "WHITE NIB|BLACK NIB|CHECK MARK|HEAVY CHECK MARK|MULTIPLICATION X|HEAVY MULTIPLICATION X|BALLOT X",
    "HEAVY BALLOT X|OUTLINED GREEK CROSS|HEAVY GREEK CROSS|OPEN CENTRE CROSS|HEAVY OPEN CENTRE CROSS|LATIN CROSS",
    "SHADOWED WHITE LATIN CROSS|OUTLINED LATIN CROSS|MALTESE CROSS|STAR OF DAVID|FOUR TEARDROP-SPOKED ASTERISK",
    "FOUR BALLOON-SPOKED ASTERISK|HEAVY FOUR BALLOON-SPOKED ASTERISK|FOUR CLUB-SPOKED ASTERISK",
    "BLACK FOUR POINTED STAR|WHITE FOUR POINTED STAR|SPARKLES|STRESS OUTLINED WHITE STAR|CIRCLED WHITE STAR",
    "OPEN CENTRE BLACK STAR|BLACK CENTRE WHITE STAR|OUTLINED BLACK STAR|HEAVY OUTLINED BLACK STAR|PINWHEEL STAR",
    "SHADOWED WHITE STAR|HEAVY ASTERISK|OPEN CENTRE ASTERISK|EIGHT SPOKED ASTERISK|EIGHT POINTED BLACK STAR",
    "EIGHT POINTED PINWHEEL STAR|SIX POINTED BLACK STAR|EIGHT POINTED RECTILINEAR BLACK STAR",
    "HEAVY EIGHT POINTED RECTILINEAR BLACK STAR|TWELVE POINTED BLACK STAR|SIXTEEN POINTED ASTERISK",
    "TEARDROP-SPOKED ASTERISK|OPEN CENTRE TEARDROP-SPOKED ASTERISK|HEAVY TEARDROP-SPOKED ASTERISK",
    "SIX PETALLED BLACK AND WHITE FLORETTE|BLACK FLORETTE|WHITE FLORETTE|EIGHT PETALLED OUTLINED BLACK FLORETTE",
    "CIRCLED OPEN CENTRE EIGHT POINTED STAR|HEAVY TEARDROP-SPOKED PINWHEEL ASTERISK|SNOWFLAKE",
    "TIGHT TRIFOLIATE SNOWFLAKE|HEAVY CHEVRON SNOWFLAKE|SPARKLE|HEAVY SPARKLE|BALLOON-SPOKED ASTERISK",
    "EIGHT TEARDROP-SPOKED PROPELLER ASTERISK|HEAVY EIGHT TEARDROP-SPOKED PROPELLER ASTERISK|CROSS MARK",
    "SHADOWED WHITE CIRCLE|NEGATIVE SQUARED CROSS MARK|LOWER RIGHT DROP-SHADOWED WHITE SQUARE",
    "UPPER RIGHT DROP-SHADOWED WHITE SQUARE|LOWER RIGHT SHADOWED WHITE SQUARE|UPPER RIGHT SHADOWED WHITE SQUARE",
    "BLACK QUESTION MARK ORNAMENT|WHITE QUESTION MARK ORNAMENT|WHITE EXCLAMATION MARK ORNAMENT",
    "BLACK DIAMOND MINUS WHITE X|HEAVY EXCLAMATION MARK SYMBOL|LIGHT VERTICAL BAR|MEDIUM VERTICAL BAR"]⟩,
  ⟨0x275A, "HEAVY ", [
    "VERTICAL BAR|SINGLE TURNED COMMA QUOTATION MARK ORNAMENT|SINGLE COMMA QUOTATION MARK ORNAMENT",
    "DOUBLE TURNED COMMA QUOTATION MARK ORNAMENT|DOUBLE COMMA QUOTATION MARK ORNAMENT",
    "LOW SINGLE COMMA QUOTATION MARK ORNAMENT|LOW DOUBLE COMMA QUOTATION MARK ORNAMENT"]⟩,
  ⟨0x2761, "", [
    "CURVED STEM PARAGRAPH SIGN ORNAMENT|HEAVY EXCLAMATION MARK ORNAMENT|HEAVY HEART EXCLAMATION MARK ORNAMENT",
    "HEAVY BLACK HEART|ROTATED HEAVY BLACK HEART BULLET|FLORAL HEART|ROTATED FLORAL HEART BULLET"]⟩,
  ⟨0x2768, "MEDIUM ", [
    "LEFT PARENTHESIS ORNAMENT|RIGHT PARENTHESIS ORNAMENT|FLATTENED LEFT PARENTHESIS ORNAMENT",
    "FLATTENED RIGHT PARENTHESIS ORNAMENT|LEFT-POINTING ANGLE BRACKET ORNAMENT",
    "RIGHT-POINTING ANGLE BRACKET ORNAMENT"]⟩,
  ⟨0x276E, "HEAVY ", [
    "LEFT-POINTING ANGLE QUOTATION MARK ORNAMENT|RIGHT-POINTING ANGLE QUOTATION MARK ORNAMENT",
    "LEFT-POINTING ANGLE BRACKET ORNAMENT|RIGHT-POINTING ANGLE BRACKET ORNAMENT"]⟩,
  ⟨0x2772, "", [
    "LIGHT LEFT TORTOISE SHELL BRACKET ORNAMENT|LIGHT RIGHT TORTOISE SHELL BRACKET ORNAMENT",
    "MEDIUM LEFT CURLY BRACKET ORNAMENT|MEDIUM RIGHT CURLY BRACKET ORNAMENT"]⟩,
  ⟨0x2776, "DINGBAT NEGATIVE CIRCLED DIGIT ", ["ONE|TWO|THREE|FOUR|FIVE|SIX|SEVEN|EIGHT|NINE"]⟩,
  ⟨0x277F, "DINGBAT NEGATIVE CIRCLED NUMBER TEN", [""]⟩,
  ⟨0x2780, "DINGBAT CIRCLED SANS-SERIF DIGIT ", ["ONE|TWO|THREE|FOUR|FIVE|SIX|SEVEN|EIGHT|NINE"]⟩,
  ⟨0x2789, "DINGBAT CIRCLED SANS-SERIF NUMBER TEN", [""]⟩,
  ⟨0x278A, "DINGBAT NEGATIVE CIRCLED SANS-SERIF ", [
    "DIGIT ONE|DIGIT TWO|DIGIT THREE|DIGIT FOUR|DIGIT FIVE|DIGIT SIX|DIGIT SEVEN|DIGIT EIGHT|DIGIT NINE|NUMBER TEN"]⟩,
  ⟨0x2794, "HEAVY ", [
    "WIDE-HEADED RIGHTWARDS ARROW|PLUS SIGN|MINUS SIGN|DIVISION SIGN|SOUTH EAST ARROW|RIGHTWARDS ARROW",
    "NORTH EAST ARROW"]⟩,
  ⟨0x279B, "", [
    "DRAFTING POINT RIGHTWARDS ARROW|HEAVY ROUND-TIPPED RIGHTWARDS ARROW|TRIANGLE-HEADED RIGHTWARDS ARROW",
    "HEAVY TRIANGLE-HEADED RIGHTWARDS ARROW|DASHED TRIANGLE-HEADED RIGHTWARDS ARROW",
    "HEAVY DASHED TRIANGLE-HEADED RIGHTWARDS ARROW|BLACK RIGHTWARDS ARROW|THREE-D TOP-LIGHTED RIGHTWARDS ARROWHEAD",
    "THREE-D BOTTOM-LIGHTED RIGHTWARDS ARROWHEAD|BLACK RIGHTWARDS ARROWHEAD",
    "HEAVY BLACK CURVED DOWNWARDS AND RIGHTWARDS ARROW|HEAVY BLACK CURVED UPWARDS AND RIGHTWARDS ARROW",
    "SQUAT BLACK RIGHTWARDS ARROW|HEAVY CONCAVE-POINTED BLACK RIGHTWARDS ARROW|RIGHT-SHADED WHITE RIGHTWARDS ARROW",
    "LEFT-SHADED WHITE RIGHTWARDS ARROW|BACK-TILTED SHADOWED WHITE RIGHTWARDS ARROW",
    "FRONT-TILTED SHADOWED WHITE RIGHTWARDS ARROW|HEAVY LOWER RIGHT-SHADOWED WHITE RIGHTWARDS ARROW",
    "HEAVY UPPER RIGHT-SHADOWED WHITE RIGHTWARDS ARROW|NOTCHED LOWER RIGHT-SHADOWED WHITE RIGHTWARDS ARROW",
    "CURLY LOOP|NOTCHED UPPER RIGHT-SHADOWED WHITE RIGHTWARDS ARROW|CIRCLED HEAVY WHITE RIGHTWARDS ARROW",
    "WHITE-FEATHERED RIGHTWARDS ARROW"]⟩,
  ⟨0x27B4, "BLACK-FEATHERED ", ["SOUTH EAST ARROW|RIGHTWARDS ARROW|NORTH EAST ARROW"]⟩,
  ⟨0x27B7, "HEAVY BLACK-FEATHERED ", ["SOUTH EAST ARROW|RIGHTWARDS ARROW|NORTH EAST ARROW"]⟩,
  ⟨0x27BA, "", [
    "TEARDROP-BARBED RIGHTWARDS ARROW|HEAVY TEARDROP-SHANKED RIGHTWARDS ARROW|WEDGE-TAILED RIGHTWARDS ARROW",
    "HEAVY WEDGE-TAILED RIGHTWARDS ARROW|OPEN-OUTLINED RIGHTWARDS ARROW|DOUBLE CURLY LOOP|THREE DIMENSIONAL ANGLE",
    "WHITE TRIANGLE CONTAINING SMALL WHITE TRIANGLE|PERPENDICULAR|OPEN SUBSET|OPEN SUPERSET",
    "LEFT S-SHAPED BAG DELIMITER|RIGHT S-SHAPED BAG DELIMITER|OR WITH DOT INSIDE|REVERSE SOLIDUS PRECEDING SUBSET",
    "SUPERSET PRECEDING SOLIDUS|VERTICAL BAR WITH HORIZONTAL STROKE|MATHEMATICAL RISING DIAGONAL|LONG DIVISION",
    "MATHEMATICAL FALLING DIAGONAL|SQUARED LOGICAL AND|SQUARED LOGICAL OR|WHITE DIAMOND WITH CENTRED DOT",
    "AND WITH DOT|ELEMENT OF OPENING UPWARDS|LOWER RIGHT CORNER WITH DOT|UPPER LEFT CORNER WITH DOT|LEFT OUTER JOIN",
    "RIGHT OUTER JOIN|FULL OUTER JOIN|LARGE UP TACK|LARGE DOWN TACK|LEFT AND RIGHT DOUBLE TURNSTILE",
    "LEFT AND RIGHT TACK|LEFT MULTIMAP|LONG RIGHT TACK|LONG LEFT TACK|UP TACK WITH CIRCLE ABOVE",
    "LOZENGE DIVIDED BY HORIZONTAL RULE"]⟩,
  ⟨0x27E1, "WHITE CONCAVE-SIDED ", ["DIAMOND|DIAMOND WITH LEFTWARDS TICK|DIAMOND WITH RIGHTWARDS TICK"]⟩,
  ⟨0x27E4, "WHITE SQUARE WITH ", ["LEFTWARDS TICK|RIGHTWARDS TICK"]⟩,
  ⟨0x27E6, "MATHEMATICAL ", [
    "LEFT WHITE SQUARE BRACKET|RIGHT WHITE SQUARE BRACKET|LEFT ANGLE BRACKET|RIGHT ANGLE BRACKET",
    "LEFT DOUBLE ANGLE BRACKET|RIGHT DOUBLE ANGLE BRACKET|LEFT WHITE TORTOISE SHELL BRACKET",
    "RIGHT WHITE TORTOISE SHELL BRACKET|LEFT FLATTENED PARENTHESIS|RIGHT FLATTENED PARENTHESIS"]⟩,
  ⟨0x27F0, "", [
    "UPWARDS QUADRUPLE ARROW|DOWNWARDS QUADRUPLE ARROW|ANTICLOCKWISE GAPPED CIRCLE ARROW",
    "CLOCKWISE GAPPED CIRCLE ARROW|RIGHT ARROW WITH CIRCLED PLUS"]⟩,
  ⟨0x27F5, "LONG ", [
    "LEFTWARDS ARROW|RIGHTWARDS ARROW|LEFT RIGHT ARROW|LEFTWARDS DOUBLE ARROW|RIGHTWARDS DOUBLE ARROW",
    "LEFT RIGHT DOUBLE ARROW|LEFTWARDS ARROW FROM BAR|RIGHTWARDS ARROW FROM BAR|LEFTWARDS DOUBLE ARROW FROM BAR",
    "RIGHTWARDS DOUBLE ARROW FROM BAR|RIGHTWARDS SQUIGGLE ARROW"]⟩]

/-- From U+2800 to U+9FFF. -/
def from2800 : List NameRun := [
  ⟨0x2800, "BRAILLE PATTERN BLANK", [""]⟩,
  ⟨0x2801, "BRAILLE PATTERN DOTS-", [
    "1|2|12|3|13|23|123|4|14|24|124|34|134|234|1234|5|15|25|125|35|135|235|1235|45|145|245|1245|345|1345|2345|12345",
    "6|16|26|126|36|136|236|1236|46|146|246|1246|346|1346|2346|12346|56|156|256|1256|356|1356|2356|12356|456|1456",
    "2456|12456|3456|13456|23456|123456|7|17|27|127|37|137|237|1237|47|147|247|1247|347|1347|2347|12347|57|157|257",
    "1257|357|1357|2357|12357|457|1457|2457|12457|3457|13457|23457|123457|67|167|267|1267|367|1367|2367|12367|467",
    "1467|2467|12467|3467|13467|23467|123467|567|1567|2567|12567|3567|13567|23567|123567|4567|14567|24567|124567",
    "34567|134567|234567|1234567|8|18|28|128|38|138|238|1238|48|148|248|1248|348|1348|2348|12348|58|158|258|1258",
    "358|1358|2358|12358|458|1458|2458|12458|3458|13458|23458|123458|68|168|268|1268|368|1368|2368|12368|468|1468",
    "2468|12468|3468|13468|23468|123468|568|1568|2568|12568|3568|13568|23568|123568|4568|14568|24568|124568|34568",
    "134568|234568|1234568|78|178|278|1278|378|1378|2378|12378|478|1478|2478|12478|3478|13478|23478|123478|578|1578",
    "2578|12578|3578|13578|23578|123578|4578|14578|24578|124578|34578|134578|234578|1234578|678|1678|2678|12678",
    "3678|13678|23678|123678|4678|14678|24678|124678|34678|134678|234678|1234678|5678|15678|25678|125678|35678",
    "135678|235678|1235678|45678|145678|245678|1245678|345678|1345678|2345678|12345678"]⟩,
  ⟨0x2900, "RIGHTWARDS TWO-HEADED ARROW WITH ", ["VERTICAL STROKE|DOUBLE VERTICAL STROKE"]⟩,
  ⟨0x2902, "", [
    "LEFTWARDS DOUBLE ARROW WITH VERTICAL STROKE|RIGHTWARDS DOUBLE ARROW WITH VERTICAL STROKE",
    "LEFT RIGHT DOUBLE ARROW WITH VERTICAL STROKE|RIGHTWARDS TWO-HEADED ARROW FROM BAR",
    "LEFTWARDS DOUBLE ARROW FROM BAR|RIGHTWARDS DOUBLE ARROW FROM BAR|DOWNWARDS ARROW WITH HORIZONTAL STROKE",
    "UPWARDS ARROW WITH HORIZONTAL STROKE|UPWARDS TRIPLE ARROW|DOWNWARDS TRIPLE ARROW|LEFTWARDS DOUBLE DASH ARROW",
    "RIGHTWARDS DOUBLE DASH ARROW|LEFTWARDS TRIPLE DASH ARROW|RIGHTWARDS TRIPLE DASH ARROW",
    "RIGHTWARDS TWO-HEADED TRIPLE DASH ARROW|RIGHTWARDS ARROW WITH DOTTED STEM|UPWARDS ARROW TO BAR",
    "DOWNWARDS ARROW TO BAR"]⟩,
  ⟨0x2914, "RIGHTWARDS ARROW WITH TAIL WITH ", ["VERTICAL STROKE|DOUBLE VERTICAL STROKE"]⟩,
  ⟨0x2916, "RIGHTWARDS TWO-HEADED ARROW WITH ", ["TAIL|TAIL WITH VERTICAL STROKE|TAIL WITH DOUBLE VERTICAL STROKE"]⟩,
  ⟨0x2919, "", [
    "LEFTWARDS ARROW-TAIL|RIGHTWARDS ARROW-TAIL|LEFTWARDS DOUBLE ARROW-TAIL|RIGHTWARDS DOUBLE ARROW-TAIL",
    "LEFTWARDS ARROW TO BLACK DIAMOND|RIGHTWARDS ARROW TO BLACK DIAMOND|LEFTWARDS ARROW FROM BAR TO BLACK DIAMOND",
    "RIGHTWARDS ARROW FROM BAR TO BLACK DIAMOND|NORTH WEST AND SOUTH EAST ARROW|NORTH EAST AND SOUTH WEST ARROW",
    "NORTH WEST ARROW WITH HOOK|NORTH EAST ARROW WITH HOOK|SOUTH EAST ARROW WITH HOOK|SOUTH WEST ARROW WITH HOOK",
    "NORTH WEST ARROW AND NORTH EAST ARROW|NORTH EAST ARROW AND SOUTH EAST ARROW",
    "SOUTH EAST ARROW AND SOUTH WEST ARROW|SOUTH WEST ARROW AND NORTH WEST ARROW",
    "RISING DIAGONAL CROSSING FALLING DIAGONAL|FALLING DIAGONAL CROSSING RISING DIAGONAL",
    "SOUTH EAST ARROW CROSSING NORTH EAST ARROW|NORTH EAST ARROW CROSSING SOUTH EAST ARROW",
    "FALLING DIAGONAL CROSSING NORTH EAST ARROW|RISING DIAGONAL CROSSING SOUTH EAST ARROW",
    "NORTH EAST ARROW CROSSING NORTH WEST ARROW|NORTH WEST ARROW CROSSING NORTH EAST ARROW",
    "WAVE ARROW POINTING DIRECTLY RIGHT"]⟩,
  ⟨0x2934, "ARROW POINTING RIGHTWARDS THEN CURVING ", ["UPWARDS|DOWNWARDS"]⟩,
  ⟨0x2936, "ARROW POINTING DOWNWARDS THEN CURVING ", ["LEFTWARDS|RIGHTWARDS"]⟩,
  ⟨0x2938, "", [
    "RIGHT-SIDE ARC CLOCKWISE ARROW|LEFT-SIDE ARC ANTICLOCKWISE ARROW|TOP ARC ANTICLOCKWISE ARROW",
    "BOTTOM ARC ANTICLOCKWISE ARROW|TOP ARC CLOCKWISE ARROW WITH MINUS|TOP ARC ANTICLOCKWISE ARROW WITH PLUS",
    "LOWER RIGHT SEMICIRCULAR CLOCKWISE ARROW|LOWER LEFT SEMICIRCULAR ANTICLOCKWISE ARROW",
    "ANTICLOCKWISE CLOSED CIRCLE ARROW|CLOCKWISE CLOSED CIRCLE ARROW|RIGHTWARDS ARROW ABOVE SHORT LEFTWARDS ARROW",
    "LEFTWARDS ARROW ABOVE SHORT RIGHTWARDS ARROW|SHORT RIGHTWARDS ARROW ABOVE LEFTWARDS ARROW",
    "RIGHTWARDS ARROW WITH PLUS BELOW|LEFTWARDS ARROW WITH PLUS BELOW|RIGHTWARDS ARROW THROUGH X",
    "LEFT RIGHT ARROW THROUGH SMALL CIRCLE|UPWARDS TWO-HEADED ARROW FROM SMALL CIRCLE",
    "LEFT BARB UP RIGHT BARB DOWN HARPOON|LEFT BARB DOWN RIGHT BARB UP HARPOON|UP BARB RIGHT DOWN BARB LEFT HARPOON",
    "UP BARB LEFT DOWN BARB RIGHT HARPOON|LEFT BARB UP RIGHT BARB UP HARPOON|UP BARB RIGHT DOWN BARB RIGHT HARPOON",
    "LEFT BARB DOWN RIGHT BARB DOWN HARPOON|UP BARB LEFT DOWN BARB LEFT HARPOON",
    "LEFTWARDS HARPOON WITH BARB UP TO BAR|RIGHTWARDS HARPOON WITH BARB UP TO BAR",
    "UPWARDS HARPOON WITH BARB RIGHT TO BAR|DOWNWARDS HARPOON WITH BARB RIGHT TO BAR",
    "LEFTWARDS HARPOON WITH BARB DOWN TO BAR|RIGHTWARDS HARPOON WITH BARB DOWN TO BAR",
    "UPWARDS HARPOON WITH BARB LEFT TO BAR|DOWNWARDS HARPOON WITH BARB LEFT TO BAR",
    "LEFTWARDS HARPOON WITH BARB UP FROM BAR|RIGHTWARDS HARPOON WITH BARB UP FROM BAR",
    "UPWARDS HARPOON WITH BARB RIGHT FROM BAR|DOWNWARDS HARPOON WITH BARB RIGHT FROM BAR",
    "LEFTWARDS HARPOON WITH BARB DOWN FROM BAR|RIGHTWARDS HARPOON WITH BARB DOWN FROM BAR",
    "UPWARDS HARPOON WITH BARB LEFT FROM BAR|DOWNWARDS HARPOON WITH BARB LEFT FROM BAR",
    "LEFTWARDS HARPOON WITH BARB UP ABOVE LEFTWARDS HARPOON WITH BARB DOWN",
    "UPWARDS HARPOON WITH BARB LEFT BESIDE UPWARDS HARPOON WITH BARB RIGHT",
    "RIGHTWARDS HARPOON WITH BARB UP ABOVE RIGHTWARDS HARPOON WITH BARB DOWN",
    "DOWNWARDS HARPOON WITH BARB LEFT BESIDE DOWNWARDS HARPOON WITH BARB RIGHT"]⟩,
  ⟨0x2966, "LEFTWARDS HARPOON WITH BARB ", [
    "UP ABOVE RIGHTWARDS HARPOON WITH BARB UP|DOWN ABOVE RIGHTWARDS HARPOON WITH BARB DOWN"]⟩,
  ⟨0x2968, "RIGHTWARDS HARPOON WITH BARB ", [
    "UP ABOVE LEFTWARDS HARPOON WITH BARB UP|DOWN ABOVE LEFTWARDS HARPOON WITH BARB DOWN"]⟩,
  ⟨0x296A, "LEFTWARDS HARPOON WITH BARB ", ["UP ABOVE LONG DASH|DOWN BELOW LONG DASH"]⟩,
  ⟨0x296C, "RIGHTWARDS HARPOON WITH BARB ", ["UP ABOVE LONG DASH|DOWN BELOW LONG DASH"]⟩,
  ⟨0x296E, "", [
    "UPWARDS HARPOON WITH BARB LEFT BESIDE DOWNWARDS HARPOON WITH BARB RIGHT",
    "DOWNWARDS HARPOON WITH BARB LEFT BESIDE UPWARDS HARPOON WITH BARB RIGHT|RIGHT DOUBLE ARROW WITH ROUNDED HEAD",
    "EQUALS SIGN ABOVE RIGHTWARDS ARROW|TILDE OPERATOR ABOVE RIGHTWARDS ARROW|LEFTWARDS ARROW ABOVE TILDE OPERATOR",
    "RIGHTWARDS ARROW ABOVE TILDE OPERATOR|RIGHTWARDS ARROW ABOVE ALMOST EQUAL TO|LESS-THAN ABOVE LEFTWARDS ARROW",
    "LEFTWARDS ARROW THROUGH LESS-THAN|GREATER-THAN ABOVE RIGHTWARDS ARROW|SUBSET ABOVE RIGHTWARDS ARROW",
    "LEFTWARDS ARROW THROUGH SUBSET|SUPERSET ABOVE LEFTWARDS ARROW|LEFT FISH TAIL|RIGHT FISH TAIL|UP FISH TAIL",
    "DOWN FISH TAIL|TRIPLE VERTICAL BAR DELIMITER|Z NOTATION SPOT|Z NOTATION TYPE COLON|LEFT WHITE CURLY BRACKET",
    "RIGHT WHITE CURLY BRACKET|LEFT WHITE PARENTHESIS|RIGHT WHITE PARENTHESIS"]⟩,
  ⟨0x2987, "Z NOTATION ", ["LEFT IMAGE BRACKET|RIGHT IMAGE BRACKET|LEFT BINDING BRACKET|RIGHT BINDING BRACKET"]⟩,
  ⟨0x298B, "", [
    "LEFT SQUARE BRACKET WITH UNDERBAR|RIGHT SQUARE BRACKET WITH UNDERBAR",
    "LEFT SQUARE BRACKET WITH TICK IN TOP CORNER|RIGHT SQUARE BRACKET WITH TICK IN BOTTOM CORNER",
    "LEFT SQUARE BRACKET WITH TICK IN BOTTOM CORNER|RIGHT SQUARE BRACKET WITH TICK IN TOP CORNER",
    "LEFT ANGLE BRACKET WITH DOT|RIGHT ANGLE BRACKET WITH DOT|LEFT ARC LESS-THAN BRACKET",
    "RIGHT ARC GREATER-THAN BRACKET|DOUBLE LEFT ARC GREATER-THAN BRACKET|DOUBLE RIGHT ARC LESS-THAN BRACKET",
    "LEFT BLACK TORTOISE SHELL BRACKET|RIGHT BLACK TORTOISE SHELL BRACKET|DOTTED FENCE|VERTICAL ZIGZAG LINE",
    "MEASURED ANGLE OPENING LEFT|RIGHT ANGLE VARIANT WITH SQUARE|MEASURED RIGHT ANGLE WITH DOT|ANGLE WITH S INSIDE",
    "ACUTE ANGLE|SPHERICAL ANGLE OPENING LEFT|SPHERICAL ANGLE OPENING UP|TURNED ANGLE|REVERSED ANGLE",
    "ANGLE WITH UNDERBAR|REVERSED ANGLE WITH UNDERBAR"]⟩,
  ⟨0x29A6, "OBLIQUE ANGLE OPENING ", ["UP|DOWN"]⟩,
  ⟨0x29A8, "MEASURED ANGLE WITH OPEN ARM ENDING IN ARROW POINTING ", [
    "UP AND RIGHT|UP AND LEFT|DOWN AND RIGHT|DOWN AND LEFT|RIGHT AND UP|LEFT AND UP|RIGHT AND DOWN|LEFT AND DOWN"]⟩,
  ⟨0x29B0, "REVERSED EMPTY SET", [""]⟩,
  ⟨0x29B1, "EMPTY SET WITH ", ["OVERBAR|SMALL CIRCLE ABOVE|RIGHT ARROW ABOVE|LEFT ARROW ABOVE"]⟩,
  ⟨0x29B5, "", [
    "CIRCLE WITH HORIZONTAL BAR|CIRCLED VERTICAL BAR|CIRCLED PARALLEL|CIRCLED REVERSE SOLIDUS|CIRCLED PERPENDICULAR",
    "CIRCLE DIVIDED BY HORIZONTAL BAR AND TOP HALF DIVIDED BY VERTICAL BAR|CIRCLE WITH SUPERIMPOSED X",
    "CIRCLED ANTICLOCKWISE-ROTATED DIVISION SIGN|UP ARROW THROUGH CIRCLE"]⟩,
  ⟨0x29BE, "CIRCLED ", ["WHITE BULLET|BULLET|LESS-THAN|GREATER-THAN"]⟩,
  ⟨0x29C2, "CIRCLE WITH ", ["SMALL CIRCLE TO THE RIGHT|TWO HORIZONTAL STROKES TO THE RIGHT"]⟩,
  ⟨0x29C4, "SQUARED ", ["RISING DIAGONAL SLASH|FALLING DIAGONAL SLASH|ASTERISK|SMALL CIRCLE|SQUARE"]⟩,
  ⟨0x29C9, "", [
    "TWO JOINED SQUARES|TRIANGLE WITH DOT ABOVE|TRIANGLE WITH UNDERBAR|S IN TRIANGLE|TRIANGLE WITH SERIFS AT BOTTOM",
    "RIGHT TRIANGLE ABOVE LEFT TRIANGLE|LEFT TRIANGLE BESIDE VERTICAL BAR|VERTICAL BAR BESIDE RIGHT TRIANGLE",
    "BOWTIE WITH LEFT HALF BLACK|BOWTIE WITH RIGHT HALF BLACK|BLACK BOWTIE|TIMES WITH LEFT HALF BLACK",
    "TIMES WITH RIGHT HALF BLACK|WHITE HOURGLASS|BLACK HOURGLASS|LEFT WIGGLY FENCE|RIGHT WIGGLY FENCE",
    "LEFT DOUBLE WIGGLY FENCE|RIGHT DOUBLE WIGGLY FENCE|INCOMPLETE INFINITY|TIE OVER INFINITY",
    "INFINITY NEGATED WITH VERTICAL BAR|DOUBLE-ENDED MULTIMAP|SQUARE WITH CONTOURED OUTLINE|INCREASES AS",
    "SHUFFLE PRODUCT|EQUALS SIGN AND SLANTED PARALLEL|EQUALS SIGN AND SLANTED PARALLEL WITH TILDE ABOVE",
    "IDENTICAL TO AND SLANTED PARALLEL|GLEICH STARK|THERMODYNAMIC|DOWN-POINTING TRIANGLE WITH LEFT HALF BLACK",
    "DOWN-POINTING TRIANGLE WITH RIGHT HALF BLACK|BLACK DIAMOND WITH DOWN ARROW|BLACK LOZENGE",
    "WHITE CIRCLE WITH DOWN ARROW|BLACK CIRCLE WITH DOWN ARROW"]⟩,
  ⟨0x29EE, "ERROR-BARRED ", ["WHITE SQUARE|BLACK SQUARE|WHITE DIAMOND|BLACK DIAMOND|WHITE CIRCLE|BLACK CIRCLE"]⟩,
  ⟨0x29F4, "", [
    "RULE-DELAYED|REVERSE SOLIDUS OPERATOR|SOLIDUS WITH OVERBAR|REVERSE SOLIDUS WITH HORIZONTAL STROKE|BIG SOLIDUS",
    "BIG REVERSE SOLIDUS|DOUBLE PLUS|TRIPLE PLUS|LEFT-POINTING CURVED ANGLE BRACKET",
    "RIGHT-POINTING CURVED ANGLE BRACKET|TINY|MINY"]⟩,
  ⟨0x2A00, "N-ARY CIRCLED ", ["DOT OPERATOR|PLUS OPERATOR|TIMES OPERATOR"]⟩,
  ⟨0x2A03, "N-ARY UNION OPERATOR WITH ", ["DOT|PLUS"]⟩,
  ⟨0x2A05, "", [
    "N-ARY SQUARE INTERSECTION OPERATOR|N-ARY SQUARE UNION OPERATOR|TWO LOGICAL AND OPERATOR",
    "TWO LOGICAL OR OPERATOR|N-ARY TIMES OPERATOR|MODULO TWO SUM|SUMMATION WITH INTEGRAL",
    "QUADRUPLE INTEGRAL OPERATOR|FINITE PART INTEGRAL|INTEGRAL WITH DOUBLE STROKE|INTEGRAL AVERAGE WITH SLASH",
    "CIRCULATION FUNCTION|ANTICLOCKWISE INTEGRATION"]⟩,
  ⟨0x2A12, "LINE INTEGRATION ", [
    "WITH RECTANGULAR PATH AROUND POLE|WITH SEMICIRCULAR PATH AROUND POLE|NOT INCLUDING THE POLE"]⟩,
  ⟨0x2A15, "", ["INTEGRAL AROUND A POINT OPERATOR|QUATERNION INTEGRAL OPERATOR"]⟩,
  ⟨0x2A17, "INTEGRAL WITH ", ["LEFTWARDS ARROW WITH HOOK|TIMES SIGN|INTERSECTION|UNION|OVERBAR|UNDERBAR"]⟩,
  ⟨0x2A1D, "", ["JOIN|LARGE LEFT TRIANGLE OPERATOR"]⟩,
  ⟨0x2A1F, "Z NOTATION SCHEMA ", ["COMPOSITION|PIPING|PROJECTION"]⟩,
  ⟨0x2A22, "PLUS SIGN WITH ", [
    "SMALL CIRCLE ABOVE|CIRCUMFLEX ACCENT ABOVE|TILDE ABOVE|DOT BELOW|TILDE BELOW|SUBSCRIPT TWO|BLACK TRIANGLE"]⟩,
  ⟨0x2A29, "MINUS SIGN WITH ", ["COMMA ABOVE|DOT BELOW|FALLING DOTS|RISING DOTS"]⟩,
  ⟨0x2A2D, "", [
    "PLUS SIGN IN LEFT HALF CIRCLE|PLUS SIGN IN RIGHT HALF CIRCLE|VECTOR OR CROSS PRODUCT",
    "MULTIPLICATION SIGN WITH DOT ABOVE|MULTIPLICATION SIGN WITH UNDERBAR|SEMIDIRECT PRODUCT WITH BOTTOM CLOSED",
    "SMASH PRODUCT|MULTIPLICATION SIGN IN LEFT HALF CIRCLE|MULTIPLICATION SIGN IN RIGHT HALF CIRCLE",
    "CIRCLED MULTIPLICATION SIGN WITH CIRCUMFLEX ACCENT|MULTIPLICATION SIGN IN DOUBLE CIRCLE|CIRCLED DIVISION SIGN",
    "PLUS SIGN IN TRIANGLE|MINUS SIGN IN TRIANGLE|MULTIPLICATION SIGN IN TRIANGLE|INTERIOR PRODUCT",
    "RIGHTHAND INTERIOR PRODUCT|Z NOTATION RELATIONAL COMPOSITION|AMALGAMATION OR COPRODUCT|INTERSECTION WITH DOT",
    "UNION WITH MINUS SIGN|UNION WITH OVERBAR|INTERSECTION WITH OVERBAR|INTERSECTION WITH LOGICAL AND",
    "UNION WITH LOGICAL OR|UNION ABOVE INTERSECTION|INTERSECTION ABOVE UNION|UNION ABOVE BAR ABOVE INTERSECTION",
    "INTERSECTION ABOVE BAR ABOVE UNION|UNION BESIDE AND JOINED WITH UNION",
    "INTERSECTION BESIDE AND JOINED WITH INTERSECTION|CLOSED UNION WITH SERIFS|CLOSED INTERSECTION WITH SERIFS",
    "DOUBLE SQUARE INTERSECTION|DOUBLE SQUARE UNION|CLOSED UNION WITH SERIFS AND SMASH PRODUCT",
    "LOGICAL AND WITH DOT ABOVE|LOGICAL OR WITH DOT ABOVE|DOUBLE LOGICAL AND|DOUBLE LOGICAL OR"]⟩,
  ⟨0x2A55, "TWO INTERSECTING LOGICAL ", ["AND|OR"]⟩,
  ⟨0x2A57, "SLOPING LARGE ", ["OR|AND"]⟩,
  ⟨0x2A59, "LOGICAL ", [
    "OR OVERLAPPING LOGICAL AND|AND WITH MIDDLE STEM|OR WITH MIDDLE STEM|AND WITH HORIZONTAL DASH",
    "OR WITH HORIZONTAL DASH|AND WITH DOUBLE OVERBAR|AND WITH UNDERBAR|AND WITH DOUBLE UNDERBAR"]⟩,
  ⟨0x2A61, "", [
    "SMALL VEE WITH UNDERBAR|LOGICAL OR WITH DOUBLE OVERBAR|LOGICAL OR WITH DOUBLE UNDERBAR",
    "Z NOTATION DOMAIN ANTIRESTRICTION|Z NOTATION RANGE ANTIRESTRICTION|EQUALS SIGN WITH DOT BELOW",
    "IDENTICAL WITH DOT ABOVE|TRIPLE HORIZONTAL BAR WITH DOUBLE VERTICAL STROKE",
    "TRIPLE HORIZONTAL BAR WITH TRIPLE VERTICAL STROKE|TILDE OPERATOR WITH DOT ABOVE",
    "TILDE OPERATOR WITH RISING DOTS|SIMILAR MINUS SIMILAR|CONGRUENT WITH DOT ABOVE|EQUALS WITH ASTERISK",
    "ALMOST EQUAL TO WITH CIRCUMFLEX ACCENT|APPROXIMATELY EQUAL OR EQUAL TO|EQUALS SIGN ABOVE PLUS SIGN",
    "PLUS SIGN ABOVE EQUALS SIGN|EQUALS SIGN ABOVE TILDE OPERATOR|DOUBLE COLON EQUAL|TWO CONSECUTIVE EQUALS SIGNS",
    "THREE CONSECUTIVE EQUALS SIGNS|EQUALS SIGN WITH TWO DOTS ABOVE AND TWO DOTS BELOW",
    "EQUIVALENT WITH FOUR DOTS ABOVE|LESS-THAN WITH CIRCLE INSIDE|GREATER-THAN WITH CIRCLE INSIDE",
    "LESS-THAN WITH QUESTION MARK ABOVE|GREATER-THAN WITH QUESTION MARK ABOVE|LESS-THAN OR SLANTED EQUAL TO",
    "GREATER-THAN OR SLANTED EQUAL TO|LESS-THAN OR SLANTED EQUAL TO WITH DOT INSIDE",
    "GREATER-THAN OR SLANTED EQUAL TO WITH DOT INSIDE|LESS-THAN OR SLANTED EQUAL TO WITH DOT ABOVE",
    "GREATER-THAN OR SLANTED EQUAL TO WITH DOT ABOVE|LESS-THAN OR SLANTED EQUAL TO WITH DOT ABOVE RIGHT",
    "GREATER-THAN OR SLANTED EQUAL TO WITH DOT ABOVE LEFT|LESS-THAN OR APPROXIMATE|GREATER-THAN OR APPROXIMATE",
    "LESS-THAN AND SINGLE-LINE NOT EQUAL TO|GREATER-THAN AND SINGLE-LINE NOT EQUAL TO|LESS-THAN AND NOT APPROXIMATE",
    "GREATER-THAN AND NOT APPROXIMATE|LESS-THAN ABOVE DOUBLE-LINE EQUAL ABOVE GREATER-THAN",
    "GREATER-THAN ABOVE DOUBLE-LINE EQUAL ABOVE LESS-THAN|LESS-THAN ABOVE SIMILAR OR EQUAL",
    "GREATER-THAN ABOVE SIMILAR OR EQUAL|LESS-THAN ABOVE SIMILAR ABOVE GREATER-THAN",
    "GREATER-THAN ABOVE SIMILAR ABOVE LESS-THAN|LESS-THAN ABOVE GREATER-THAN ABOVE DOUBLE-LINE EQUAL",
    "GREATER-THAN ABOVE LESS-THAN ABOVE DOUBLE-LINE EQUAL",
    "LESS-THAN ABOVE SLANTED EQUAL ABOVE GREATER-THAN ABOVE SLANTED EQUAL",
    "GREATER-THAN ABOVE SLANTED EQUAL ABOVE LESS-THAN ABOVE SLANTED EQUAL"]⟩,
  ⟨0x2A95, "SLANTED EQUAL TO OR ", ["LESS-THAN|GREATER-THAN|LESS-THAN WITH DOT INSIDE|GREATER-THAN WITH DOT INSIDE"]⟩,
  ⟨0x2A99, "DOUBLE-LINE EQUAL TO OR ", ["LESS-THAN|GREATER-THAN"]⟩,
  ⟨0x2A9B, "DOUBLE-LINE SLANTED EQUAL TO OR ", ["LESS-THAN|GREATER-THAN"]⟩,
  ⟨0x2A9D, "SIMILAR ", [
    "OR LESS-THAN|OR GREATER-THAN|ABOVE LESS-THAN ABOVE EQUALS SIGN|ABOVE GREATER-THAN ABOVE EQUALS SIGN"]⟩,
  ⟨0x2AA1, "DOUBLE NESTED ", ["LESS-THAN|GREATER-THAN|LESS-THAN WITH UNDERBAR"]⟩,
  ⟨0x2AA4, "", [
    "GREATER-THAN OVERLAPPING LESS-THAN|GREATER-THAN BESIDE LESS-THAN|LESS-THAN CLOSED BY CURVE",
    "GREATER-THAN CLOSED BY CURVE|LESS-THAN CLOSED BY CURVE ABOVE SLANTED EQUAL",
    "GREATER-THAN CLOSED BY CURVE ABOVE SLANTED EQUAL|SMALLER THAN|LARGER THAN|SMALLER THAN OR EQUAL TO",
    "LARGER THAN OR EQUAL TO|EQUALS SIGN WITH BUMPY ABOVE|PRECEDES ABOVE SINGLE-LINE EQUALS SIGN",
    "SUCCEEDS ABOVE SINGLE-LINE EQUALS SIGN|PRECEDES ABOVE SINGLE-LINE NOT EQUAL TO",
    "SUCCEEDS ABOVE SINGLE-LINE NOT EQUAL TO|PRECEDES ABOVE EQUALS SIGN|SUCCEEDS ABOVE EQUALS SIGN",
    "PRECEDES ABOVE NOT EQUAL TO|SUCCEEDS ABOVE NOT EQUAL TO|PRECEDES ABOVE ALMOST EQUAL TO",
    "SUCCEEDS ABOVE ALMOST EQUAL TO|PRECEDES ABOVE NOT ALMOST EQUAL TO|SUCCEEDS ABOVE NOT ALMOST EQUAL TO",
    "DOUBLE PRECEDES|DOUBLE SUCCEEDS|SUBSET WITH DOT|SUPERSET WITH DOT|SUBSET WITH PLUS SIGN BELOW",
    "SUPERSET WITH PLUS SIGN BELOW|SUBSET WITH MULTIPLICATION SIGN BELOW|SUPERSET WITH MULTIPLICATION SIGN BELOW",
    "SUBSET OF OR EQUAL TO WITH DOT ABOVE|SUPERSET OF OR EQUAL TO WITH DOT ABOVE|SUBSET OF ABOVE EQUALS SIGN",
    "SUPERSET OF ABOVE EQUALS SIGN|SUBSET OF ABOVE TILDE OPERATOR|SUPERSET OF ABOVE TILDE OPERATOR",
    "SUBSET OF ABOVE ALMOST EQUAL TO|SUPERSET OF ABOVE ALMOST EQUAL TO|SUBSET OF ABOVE NOT EQUAL TO",
    "SUPERSET OF ABOVE NOT EQUAL TO|SQUARE LEFT OPEN BOX OPERATOR|SQUARE RIGHT OPEN BOX OPERATOR|CLOSED SUBSET",
    "CLOSED SUPERSET|CLOSED SUBSET OR EQUAL TO|CLOSED SUPERSET OR EQUAL TO|SUBSET ABOVE SUPERSET",
    "SUPERSET ABOVE SUBSET|SUBSET ABOVE SUBSET|SUPERSET ABOVE SUPERSET|SUPERSET BESIDE SUBSET",
    "SUPERSET BESIDE AND JOINED BY DASH WITH SUBSET|ELEMENT OF OPENING DOWNWARDS|PITCHFORK WITH TEE TOP",
    "TRANSVERSAL INTERSECTION|FORKING|NONFORKING|SHORT LEFT TACK|SHORT DOWN TACK|SHORT UP TACK|PERPENDICULAR WITH S",
    "VERTICAL BAR TRIPLE RIGHT TURNSTILE|DOUBLE VERTICAL BAR LEFT TURNSTILE|VERTICAL BAR DOUBLE LEFT TURNSTILE",
    "DOUBLE VERTICAL BAR DOUBLE LEFT TURNSTILE|LONG DASH FROM LEFT MEMBER OF DOUBLE VERTICAL",
    "SHORT DOWN TACK WITH OVERBAR|SHORT UP TACK WITH UNDERBAR|SHORT UP TACK ABOVE SHORT DOWN TACK|DOUBLE DOWN TACK",
    "DOUBLE UP TACK|DOUBLE STROKE NOT SIGN|REVERSED DOUBLE STROKE NOT SIGN",
    "DOES NOT DIVIDE WITH REVERSED NEGATION SLASH|VERTICAL LINE WITH CIRCLE ABOVE|VERTICAL LINE WITH CIRCLE BELOW",
    "DOWN TACK WITH CIRCLE BELOW|PARALLEL WITH HORIZONTAL STROKE|PARALLEL WITH TILDE OPERATOR"]⟩,
  ⟨0x2AF4, "TRIPLE ", [
    "VERTICAL BAR BINARY RELATION|VERTICAL BAR WITH HORIZONTAL STROKE|COLON OPERATOR|NESTED LESS-THAN",
    "NESTED GREATER-THAN"]⟩,
  ⟨0x2AF9, "DOUBLE-LINE SLANTED ", ["LESS-THAN OR EQUAL TO|GREATER-THAN OR EQUAL TO"]⟩,
  ⟨0x2AFB, "", [
    "TRIPLE SOLIDUS BINARY RELATION|LARGE TRIPLE VERTICAL BAR OPERATOR|DOUBLE SOLIDUS OPERATOR|WHITE VERTICAL BAR",
    "N-ARY WHITE VERTICAL BAR|NORTH EAST WHITE ARROW|NORTH WEST WHITE ARROW|SOUTH EAST WHITE ARROW",
    "SOUTH WEST WHITE ARROW|LEFT RIGHT WHITE ARROW|LEFTWARDS BLACK ARROW|UPWARDS BLACK ARROW|DOWNWARDS BLACK ARROW",
    "NORTH EAST BLACK ARROW|NORTH WEST BLACK ARROW|SOUTH EAST BLACK ARROW|SOUTH WEST BLACK ARROW",
    "LEFT RIGHT BLACK ARROW|UP DOWN BLACK ARROW"]⟩,
  ⟨0x2B0E, "RIGHTWARDS ARROW WITH TIP ", ["DOWNWARDS|UPWARDS"]⟩,
  ⟨0x2B10, "LEFTWARDS ARROW WITH TIP ", ["DOWNWARDS|UPWARDS"]⟩,
  ⟨0x2B12, "SQUARE WITH ", [
    "TOP HALF BLACK|BOTTOM HALF BLACK|UPPER RIGHT DIAGONAL HALF BLACK|LOWER LEFT DIAGONAL HALF BLACK"]⟩,
  ⟨0x2B16, "DIAMOND WITH ", ["LEFT HALF BLACK|RIGHT HALF BLACK|TOP HALF BLACK|BOTTOM HALF BLACK"]⟩,
  ⟨0x2B1A, "", [
    "DOTTED SQUARE|BLACK LARGE SQUARE|WHITE LARGE SQUARE|BLACK VERY SMALL SQUARE|WHITE VERY SMALL SQUARE",
    "BLACK PENTAGON|WHITE PENTAGON|WHITE HEXAGON|BLACK HEXAGON|HORIZONTAL BLACK HEXAGON|BLACK LARGE CIRCLE",
    "BLACK MEDIUM DIAMOND|WHITE MEDIUM DIAMOND|BLACK MEDIUM LOZENGE|WHITE MEDIUM LOZENGE|BLACK SMALL DIAMOND",
    "BLACK SMALL LOZENGE|WHITE SMALL LOZENGE|BLACK HORIZONTAL ELLIPSE|WHITE HORIZONTAL ELLIPSE",
    "BLACK VERTICAL ELLIPSE|WHITE VERTICAL ELLIPSE|LEFT ARROW WITH SMALL CIRCLE|THREE LEFTWARDS ARROWS",
    "LEFT ARROW WITH CIRCLED PLUS|LONG LEFTWARDS SQUIGGLE ARROW"]⟩,
  ⟨0x2B34, "LEFTWARDS TWO-HEADED ", [
    "ARROW WITH VERTICAL STROKE|ARROW WITH DOUBLE VERTICAL STROKE|ARROW FROM BAR|TRIPLE DASH ARROW"]⟩,
  ⟨0x2B38, "LEFTWARDS ARROW WITH ", ["DOTTED STEM|TAIL WITH VERTICAL STROKE|TAIL WITH DOUBLE VERTICAL STROKE"]⟩,
  ⟨0x2B3B, "LEFTWARDS TWO-HEADED ARROW WITH ", ["TAIL|TAIL WITH VERTICAL STROKE|TAIL WITH DOUBLE VERTICAL STROKE"]⟩,
  ⟨0x2B3E, "", [
    "LEFTWARDS ARROW THROUGH X|WAVE ARROW POINTING DIRECTLY LEFT|EQUALS SIGN ABOVE LEFTWARDS ARROW",
    "REVERSE TILDE OPERATOR ABOVE LEFTWARDS ARROW|LEFTWARDS ARROW ABOVE REVERSE ALMOST EQUAL TO",
    "RIGHTWARDS ARROW THROUGH GREATER-THAN|RIGHTWARDS ARROW THROUGH SUPERSET|LEFTWARDS QUADRUPLE ARROW",
    "RIGHTWARDS QUADRUPLE ARROW|REVERSE TILDE OPERATOR ABOVE RIGHTWARDS ARROW",
    "RIGHTWARDS ARROW ABOVE REVERSE ALMOST EQUAL TO|TILDE OPERATOR ABOVE LEFTWARDS ARROW",
    "LEFTWARDS ARROW ABOVE ALMOST EQUAL TO|LEFTWARDS ARROW ABOVE REVERSE TILDE OPERATOR",
    "RIGHTWARDS ARROW ABOVE REVERSE TILDE OPERATOR|DOWNWARDS TRIANGLE-HEADED ZIGZAG ARROW|SHORT SLANTED NORTH ARROW",
    "SHORT BACKSLANTED SOUTH ARROW|WHITE MEDIUM STAR|BLACK SMALL STAR|WHITE SMALL STAR",
    "BLACK RIGHT-POINTING PENTAGON|WHITE RIGHT-POINTING PENTAGON|HEAVY LARGE CIRCLE|HEAVY OVAL WITH OVAL INSIDE",
    "HEAVY CIRCLE WITH CIRCLE INSIDE|HEAVY CIRCLE|HEAVY CIRCLED SALTIRE|SLANTED NORTH ARROW WITH HOOKED HEAD",
    "BACKSLANTED SOUTH ARROW WITH HOOKED TAIL|SLANTED NORTH ARROW WITH HORIZONTAL TAIL",
    "BACKSLANTED SOUTH ARROW WITH HORIZONTAL TAIL|BENT ARROW POINTING DOWNWARDS THEN NORTH EAST",
    "SHORT BENT ARROW POINTING DOWNWARDS THEN NORTH EAST|LEFTWARDS TRIANGLE-HEADED ARROW",
    "UPWARDS TRIANGLE-HEADED ARROW|RIGHTWARDS TRIANGLE-HEADED ARROW|DOWNWARDS TRIANGLE-HEADED ARROW",
    "LEFT RIGHT TRIANGLE-HEADED ARROW|UP DOWN TRIANGLE-HEADED ARROW|NORTH WEST TRIANGLE-HEADED ARROW",
    "NORTH EAST TRIANGLE-HEADED ARROW|SOUTH EAST TRIANGLE-HEADED ARROW|SOUTH WEST TRIANGLE-HEADED ARROW",
    "LEFTWARDS TRIANGLE-HEADED DASHED ARROW|UPWARDS TRIANGLE-HEADED DASHED ARROW",
    "RIGHTWARDS TRIANGLE-HEADED DASHED ARROW|DOWNWARDS TRIANGLE-HEADED DASHED ARROW",
    "CLOCKWISE TRIANGLE-HEADED OPEN CIRCLE ARROW|ANTICLOCKWISE TRIANGLE-HEADED OPEN CIRCLE ARROW",
    "LEFTWARDS TRIANGLE-HEADED ARROW TO BAR|UPWARDS TRIANGLE-HEADED ARROW TO BAR",
    "RIGHTWARDS TRIANGLE-HEADED ARROW TO BAR|DOWNWARDS TRIANGLE-HEADED ARROW TO BAR"]⟩,
  ⟨0x2B76, "", [
    "NORTH WEST TRIANGLE-HEADED ARROW TO BAR|NORTH EAST TRIANGLE-HEADED ARROW TO BAR",
    "SOUTH EAST TRIANGLE-HEADED ARROW TO BAR|SOUTH WEST TRIANGLE-HEADED ARROW TO BAR",
    "LEFTWARDS TRIANGLE-HEADED ARROW WITH DOUBLE HORIZONTAL STROKE",
    "UPWARDS TRIANGLE-HEADED ARROW WITH DOUBLE HORIZONTAL STROKE",
    "RIGHTWARDS TRIANGLE-HEADED ARROW WITH DOUBLE HORIZONTAL STROKE",
    "DOWNWARDS TRIANGLE-HEADED ARROW WITH DOUBLE HORIZONTAL STROKE|HORIZONTAL TAB KEY|VERTICAL TAB KEY",
    "LEFTWARDS TRIANGLE-HEADED ARROW OVER RIGHTWARDS TRIANGLE-HEADED ARROW",
    "UPWARDS TRIANGLE-HEADED ARROW LEFTWARDS OF DOWNWARDS TRIANGLE-HEADED ARROW",
    "RIGHTWARDS TRIANGLE-HEADED ARROW OVER LEFTWARDS TRIANGLE-HEADED ARROW",
    "DOWNWARDS TRIANGLE-HEADED ARROW LEFTWARDS OF UPWARDS TRIANGLE-HEADED ARROW",
    "LEFTWARDS TRIANGLE-HEADED PAIRED ARROWS|UPWARDS TRIANGLE-HEADED PAIRED ARROWS",
    "RIGHTWARDS TRIANGLE-HEADED PAIRED ARROWS|DOWNWARDS TRIANGLE-HEADED PAIRED ARROWS",
    "LEFTWARDS BLACK CIRCLED WHITE ARROW|UPWARDS BLACK CIRCLED WHITE ARROW|RIGHTWARDS BLACK CIRCLED WHITE ARROW",
    "DOWNWARDS BLACK CIRCLED WHITE ARROW"]⟩,
  ⟨0x2B8C, "ANTICLOCKWISE TRIANGLE-HEADED ", [
    "RIGHT U-SHAPED ARROW|BOTTOM U-SHAPED ARROW|LEFT U-SHAPED ARROW|TOP U-SHAPED ARROW"]⟩,
  ⟨0x2B90, "", [
    "RETURN LEFT|RETURN RIGHT|NEWLINE LEFT|NEWLINE RIGHT|FOUR CORNER ARROWS CIRCLING ANTICLOCKWISE",
    "RIGHTWARDS BLACK ARROW"]⟩,
  ⟨0x2B97, "SYMBOL FOR TYPE A ELECTRONICS", [""]⟩,
  ⟨0x2B98, "THREE-D ", [
    "TOP-LIGHTED LEFTWARDS EQUILATERAL ARROWHEAD|RIGHT-LIGHTED UPWARDS EQUILATERAL ARROWHEAD",
    "TOP-LIGHTED RIGHTWARDS EQUILATERAL ARROWHEAD|LEFT-LIGHTED DOWNWARDS EQUILATERAL ARROWHEAD"]⟩,
  ⟨0x2B9C, "BLACK ", [
    "LEFTWARDS EQUILATERAL ARROWHEAD|UPWARDS EQUILATERAL ARROWHEAD|RIGHTWARDS EQUILATERAL ARROWHEAD",
    "DOWNWARDS EQUILATERAL ARROWHEAD"]⟩,
  ⟨0x2BA0, "DOWNWARDS TRIANGLE-HEADED ARROW WITH LONG TIP ", ["LEFTWARDS|RIGHTWARDS"]⟩,
  ⟨0x2BA2, "UPWARDS TRIANGLE-HEADED ARROW WITH LONG TIP ", ["LEFTWARDS|RIGHTWARDS"]⟩,
  ⟨0x2BA4, "", [
    "LEFTWARDS TRIANGLE-HEADED ARROW WITH LONG TIP UPWARDS|RIGHTWARDS TRIANGLE-HEADED ARROW WITH LONG TIP UPWARDS",
    "LEFTWARDS TRIANGLE-HEADED ARROW WITH LONG TIP DOWNWARDS",
    "RIGHTWARDS TRIANGLE-HEADED ARROW WITH LONG TIP DOWNWARDS"]⟩,
  ⟨0x2BA8, "BLACK CURVED ", [
    "DOWNWARDS AND LEFTWARDS ARROW|DOWNWARDS AND RIGHTWARDS ARROW|UPWARDS AND LEFTWARDS ARROW",
    "UPWARDS AND RIGHTWARDS ARROW|LEFTWARDS AND UPWARDS ARROW|RIGHTWARDS AND UPWARDS ARROW",
    "LEFTWARDS AND DOWNWARDS ARROW|RIGHTWARDS AND DOWNWARDS ARROW"]⟩,
  ⟨0x2BB0, "RIBBON ARROW ", ["DOWN LEFT|DOWN RIGHT|UP LEFT|UP RIGHT|LEFT UP|RIGHT UP|LEFT DOWN|RIGHT DOWN"]⟩,
  ⟨0x2BB8, "", [
    "UPWARDS WHITE ARROW FROM BAR WITH HORIZONTAL BAR|UP ARROWHEAD IN A RECTANGLE BOX|OVERLAPPING WHITE SQUARES",
    "OVERLAPPING WHITE AND BLACK SQUARES|OVERLAPPING BLACK SQUARES|BALLOT BOX WITH LIGHT X|CIRCLED X|CIRCLED BOLD X",
    "BLACK SQUARE CENTRED|BLACK DIAMOND CENTRED|TURNED BLACK PENTAGON|HORIZONTAL BLACK OCTAGON|BLACK OCTAGON"]⟩,
  ⟨0x2BC5, "BLACK MEDIUM ", [
    "UP-POINTING TRIANGLE CENTRED|DOWN-POINTING TRIANGLE CENTRED|LEFT-POINTING TRIANGLE CENTRED",
    "RIGHT-POINTING TRIANGLE CENTRED"]⟩,
  ⟨0x2BC9, "", [
    "NEPTUNE FORM TWO|TOP HALF BLACK CIRCLE|BOTTOM HALF BLACK CIRCLE|LIGHT FOUR POINTED BLACK CUSP",
    "ROTATED LIGHT FOUR POINTED BLACK CUSP|WHITE FOUR POINTED CUSP|ROTATED WHITE FOUR POINTED CUSP",
    "SQUARE POSITION INDICATOR|UNCERTAINTY SIGN|GROUP MARK"]⟩,
  ⟨0x2BD3, "PLUTO FORM ", ["TWO|THREE|FOUR|FIVE"]⟩,
  ⟨0x2BD7, "", [
    "TRANSPLUTO|PROSERPINA|ASTRAEA|HYGIEA|PHOLUS|NESSUS|WHITE MOON SELENA|BLACK DIAMOND ON CROSS",
    "TRUE LIGHT MOON ARTA|CUPIDO|HADES|ZEUS|KRONOS|APOLLON|ADMETOS|VULCANUS|POSEIDON|LEFT HALF BLACK STAR",
    "RIGHT HALF BLACK STAR|STAR WITH LEFT HALF BLACK|STAR WITH RIGHT HALF BLACK",
    "LEFTWARDS TWO-HEADED ARROW WITH TRIANGLE ARROWHEADS|UPWARDS TWO-HEADED ARROW WITH TRIANGLE ARROWHEADS",
    "RIGHTWARDS TWO-HEADED ARROW WITH TRIANGLE ARROWHEADS|DOWNWARDS TWO-HEADED ARROW WITH TRIANGLE ARROWHEADS",
    "ERIS FORM ONE|ERIS FORM TWO|SEDNA"]⟩,
  ⟨0x2BF3, "RUSSIAN ASTROLOGICAL SYMBOL ", ["VIGINTILE|NOVILE|QUINTILE|BINOVILE|SENTAGON|TREDECILE"]⟩,
  ⟨0x2BF9, "", [
    "EQUALS SIGN WITH INFINITY BELOW|UNITED SYMBOL|SEPARATED SYMBOL|DOUBLED SYMBOL|PASSED SYMBOL",
    "REVERSED RIGHT ANGLE|HELLSCHREIBER PAUSE SYMBOL"]⟩,
  ⟨0x2C00, "GLAGOLITIC CAPITAL LETTER ", [
    "AZU|BUKY|VEDE|GLAGOLI|DOBRO|YESTU|ZHIVETE|DZELO|ZEMLJA|IZHE|INITIAL IZHE|I|DJERVI|KAKO|LJUDIJE|MYSLITE|NASHI",
    "ONU|POKOJI|RITSI|SLOVO|TVRIDO|UKU|FRITU|HERU|OTU|PE|SHTA|TSI|CHRIVI|SHA|YERU|YERI|YATI|SPIDERY HA|YU|SMALL YUS",
    "SMALL YUS WITH TAIL|YO|IOTATED SMALL YUS|BIG YUS|IOTATED BIG YUS|FITA|IZHITSA|SHTAPIC|TROKUTASTI A",
    "LATINATE MYSLITE|CAUDATE CHRIVI"]⟩,
  ⟨0x2C30, "GLAGOLITIC SMALL LETTER ", [
    "AZU|BUKY|VEDE|GLAGOLI|DOBRO|YESTU|ZHIVETE|DZELO|ZEMLJA|IZHE|INITIAL IZHE|I|DJERVI|KAKO|LJUDIJE|MYSLITE|NASHI",
    "ONU|POKOJI|RITSI|SLOVO|TVRIDO|UKU|FRITU|HERU|OTU|PE|SHTA|TSI|CHRIVI|SHA|YERU|YERI|YATI|SPIDERY HA|YU|SMALL YUS",
    "SMALL YUS WITH TAIL|YO|IOTATED SMALL YUS|BIG YUS|IOTATED BIG YUS|FITA|IZHITSA|SHTAPIC|TROKUTASTI A",
    "LATINATE MYSLITE|CAUDATE CHRIVI"]⟩,
  ⟨0x2C60, "LATIN ", [
    "CAPITAL LETTER L WITH DOUBLE BAR|SMALL LETTER L WITH DOUBLE BAR|CAPITAL LETTER L WITH MIDDLE TILDE",
    "CAPITAL LETTER P WITH STROKE|CAPITAL LETTER R WITH TAIL|SMALL LETTER A WITH STROKE",
    "SMALL LETTER T WITH DIAGONAL STROKE|CAPITAL LETTER H WITH DESCENDER|SMALL LETTER H WITH DESCENDER",
    "CAPITAL LETTER K WITH DESCENDER|SMALL LETTER K WITH DESCENDER|CAPITAL LETTER Z WITH DESCENDER",
    "SMALL LETTER Z WITH DESCENDER"]⟩,
  ⟨0x2C6D, "LATIN CAPITAL LETTER ", ["ALPHA|M WITH HOOK|TURNED A|TURNED ALPHA"]⟩,
  ⟨0x2C71, "LATIN ", [
    "SMALL LETTER V WITH RIGHT HOOK|CAPITAL LETTER W WITH HOOK|SMALL LETTER W WITH HOOK|SMALL LETTER V WITH CURL",
    "CAPITAL LETTER HALF H"]⟩,
  ⟨0x2C76, "LATIN SMALL LETTER ", ["HALF H|TAILLESS PHI|E WITH NOTCH|TURNED R WITH TAIL|O WITH LOW RING INSIDE"]⟩,
  ⟨0x2C7B, "", ["LATIN LETTER SMALL CAPITAL TURNED E|LATIN SUBSCRIPT SMALL LETTER J|MODIFIER LETTER CAPITAL V"]⟩,
  ⟨0x2C7E, "LATIN CAPITAL LETTER ", ["S WITH SWASH TAIL|Z WITH SWASH TAIL"]⟩,
  ⟨0x2C80, "COPTIC ", [
    "CAPITAL LETTER ALFA|SMALL LETTER ALFA|CAPITAL LETTER VIDA|SMALL LETTER VIDA|CAPITAL LETTER GAMMA",
    "SMALL LETTER GAMMA|CAPITAL LETTER DALDA|SMALL LETTER DALDA|CAPITAL LETTER EIE|SMALL LETTER EIE",
    "CAPITAL LETTER SOU|SMALL LETTER SOU|CAPITAL LETTER ZATA|SMALL LETTER ZATA|CAPITAL LETTER HATE",
    "SMALL LETTER HATE|CAPITAL LETTER THETHE|SMALL LETTER THETHE|CAPITAL LETTER IAUDA|SMALL LETTER IAUDA",
    "CAPITAL LETTER KAPA|SMALL LETTER KAPA|CAPITAL LETTER LAULA|SMALL LETTER LAULA|CAPITAL LETTER MI",
    "SMALL LETTER MI|CAPITAL LETTER NI|SMALL LETTER NI|CAPITAL LETTER KSI|SMALL LETTER KSI|CAPITAL LETTER O",
    "SMALL LETTER O|CAPITAL LETTER PI|SMALL LETTER PI|CAPITAL LETTER RO|SMALL LETTER RO|CAPITAL LETTER SIMA",
    "SMALL LETTER SIMA|CAPITAL LETTER TAU|SMALL LETTER TAU|CAPITAL LETTER UA|SMALL LETTER UA|CAPITAL LETTER FI",
    "SMALL LETTER FI|CAPITAL LETTER KHI|SMALL LETTER KHI|CAPITAL LETTER PSI|SMALL LETTER PSI|CAPITAL LETTER OOU",
    "SMALL LETTER OOU|CAPITAL LETTER DIALECT-P ALEF|SMALL LETTER DIALECT-P ALEF|CAPITAL LETTER OLD COPTIC AIN",
    "SMALL LETTER OLD COPTIC AIN|CAPITAL LETTER CRYPTOGRAMMIC EIE|SMALL LETTER CRYPTOGRAMMIC EIE",
    "CAPITAL LETTER DIALECT-P KAPA|SMALL LETTER DIALECT-P KAPA|CAPITAL LETTER DIALECT-P NI",
    "SMALL LETTER DIALECT-P NI|CAPITAL LETTER CRYPTOGRAMMIC NI|SMALL LETTER CRYPTOGRAMMIC NI",
    "CAPITAL LETTER OLD COPTIC OOU|SMALL LETTER OLD COPTIC OOU|CAPITAL LETTER SAMPI|SMALL LETTER SAMPI",
    "CAPITAL LETTER CROSSED SHEI|SMALL LETTER CROSSED SHEI|CAPITAL LETTER OLD COPTIC SHEI",
    "SMALL LETTER OLD COPTIC SHEI|CAPITAL LETTER OLD COPTIC ESH|SMALL LETTER OLD COPTIC ESH",
    "CAPITAL LETTER AKHMIMIC KHEI|SMALL LETTER AKHMIMIC KHEI|CAPITAL LETTER DIALECT-P HORI",
    "SMALL LETTER DIALECT-P HORI|CAPITAL LETTER OLD COPTIC HORI|SMALL LETTER OLD COPTIC HORI",
    "CAPITAL LETTER OLD COPTIC HA|SMALL LETTER OLD COPTIC HA|CAPITAL LETTER L-SHAPED HA|SMALL LETTER L-SHAPED HA",
    "CAPITAL LETTER OLD COPTIC HEI|SMALL LETTER OLD COPTIC HEI|CAPITAL LETTER OLD COPTIC HAT",
    "SMALL LETTER OLD COPTIC HAT|CAPITAL LETTER OLD COPTIC GANGIA|SMALL LETTER OLD COPTIC GANGIA",
    "CAPITAL LETTER OLD COPTIC DJA|SMALL LETTER OLD COPTIC DJA|CAPITAL LETTER OLD COPTIC SHIMA",
    "SMALL LETTER OLD COPTIC SHIMA|CAPITAL LETTER OLD NUBIAN SHIMA|SMALL LETTER OLD NUBIAN SHIMA",
    "CAPITAL LETTER OLD NUBIAN NGI|SMALL LETTER OLD NUBIAN NGI|CAPITAL LETTER OLD NUBIAN NYI",
    "SMALL LETTER OLD NUBIAN NYI|CAPITAL LETTER OLD NUBIAN WAU|SMALL LETTER OLD NUBIAN WAU|SYMBOL KAI|SYMBOL MI RO",
    "SYMBOL PI RO|SYMBOL STAUROS|SYMBOL TAU RO|SYMBOL KHI RO|SYMBOL SHIMA SIMA|CAPITAL LETTER CRYPTOGRAMMIC SHEI",
    "SMALL LETTER CRYPTOGRAMMIC SHEI|CAPITAL LETTER CRYPTOGRAMMIC GANGIA|SMALL LETTER CRYPTOGRAMMIC GANGIA",
    "COMBINING NI ABOVE|COMBINING SPIRITUS ASPER|COMBINING SPIRITUS LENIS|CAPITAL LETTER BOHAIRIC KHEI",
    "SMALL LETTER BOHAIRIC KHEI"]⟩,
  ⟨0x2CF9, "COPTIC OLD NUBIAN ", ["FULL STOP|DIRECT QUESTION MARK|INDIRECT QUESTION MARK|VERSE DIVIDER"]⟩,
  ⟨0x2CFD, "COPTIC ", ["FRACTION ONE HALF|FULL STOP|MORPHOLOGICAL DIVIDER"]⟩,
  ⟨0x2D00, "GEORGIAN SMALL LETTER ", [
    "AN|BAN|GAN|DON|EN|VIN|ZEN|TAN|IN|KAN|LAS|MAN|NAR|ON|PAR|ZHAR|RAE|SAN|TAR|UN|PHAR|KHAR|GHAN|QAR|SHIN|CHIN|CAN",
    "JIL|CIL|CHAR|XAN|JHAN|HAE|HE|HIE|WE|HAR|HOE"]⟩,
  ⟨0x2D27, "GEORGIAN SMALL LETTER YN", [""]⟩,
  ⟨0x2D2D, "GEORGIAN SMALL LETTER AEN", [""]⟩,
  ⟨0x2D30, "TIFINAGH LETTER ", [
    "YA|YAB|YABH|YAG|YAGHH|BERBER ACADEMY YAJ|YAJ|YAD|YADH|YADD|YADDH|YEY|YAF|YAK|TUAREG YAK|YAKHH|YAH",
    "BERBER ACADEMY YAH|TUAREG YAH|YAHH|YAA|YAKH|TUAREG YAKH|YAQ|TUAREG YAQ|YI|YAZH|AHAGGAR YAZH|TUAREG YAZH|YAL",
    "YAM|YAN|TUAREG YAGN|TUAREG YANG|YAP|YU|YAR|YARR|YAGH|TUAREG YAGH|AYER YAGH|YAS|YASS|YASH|YAT|YATH|YACH|YATT",
    "YAV|YAW|YAY|YAZ|TAWELLEMET YAZ|YAZZ|YE|YO"]⟩,
  ⟨0x2D6F, "TIFINAGH ", ["MODIFIER LETTER LABIALIZATION MARK|SEPARATOR MARK"]⟩,
  ⟨0x2D7F, "TIFINAGH CONSONANT JOINER", [""]⟩,
  ⟨0x2D80, "ETHIOPIC SYLLABLE ", [
    "LOA|MOA|ROA|SOA|SHOA|BOA|TOA|COA|NOA|NYOA|GLOTTAL OA|ZOA|DOA|DDOA|JOA|THOA|CHOA|PHOA|POA|GGWA|GGWI|GGWEE|GGWE"]⟩,
  ⟨0x2DA0, "ETHIOPIC SYLLABLE ", ["SSA|SSU|SSI|SSAA|SSEE|SSE|SSO"]⟩,
  ⟨0x2DA8, "ETHIOPIC SYLLABLE ", ["CCA|CCU|CCI|CCAA|CCEE|CCE|CCO"]⟩,
  ⟨0x2DB0, "ETHIOPIC SYLLABLE ", ["ZZA|ZZU|ZZI|ZZAA|ZZEE|ZZE|ZZO"]⟩,
  ⟨0x2DB8, "ETHIOPIC SYLLABLE ", ["CCHA|CCHU|CCHI|CCHAA|CCHEE|CCHE|CCHO"]⟩,
  ⟨0x2DC0, "ETHIOPIC SYLLABLE ", ["QYA|QYU|QYI|QYAA|QYEE|QYE|QYO"]⟩,
  ⟨0x2DC8, "ETHIOPIC SYLLABLE ", ["KYA|KYU|KYI|KYAA|KYEE|KYE|KYO"]⟩,
  ⟨0x2DD0, "ETHIOPIC SYLLABLE ", ["XYA|XYU|XYI|XYAA|XYEE|XYE|XYO"]⟩,
  ⟨0x2DD8, "ETHIOPIC SYLLABLE ", ["GYA|GYU|GYI|GYAA|GYEE|GYE|GYO"]⟩,
  ⟨0x2DE0, "COMBINING CYRILLIC LETTER ", [
    "BE|VE|GHE|DE|ZHE|ZE|KA|EL|EM|EN|O|PE|ER|ES|TE|HA|TSE|CHE|SHA|SHCHA|FITA|ES-TE|A|IE|DJERV|MONOGRAPH UK|YAT|YU",
    "IOTIFIED A|LITTLE YUS|BIG YUS|IOTIFIED BIG YUS"]⟩,
  ⟨0x2E00, "", [
    "RIGHT ANGLE SUBSTITUTION MARKER|RIGHT ANGLE DOTTED SUBSTITUTION MARKER|LEFT SUBSTITUTION BRACKET",
    "RIGHT SUBSTITUTION BRACKET|LEFT DOTTED SUBSTITUTION BRACKET|RIGHT DOTTED SUBSTITUTION BRACKET",
    "RAISED INTERPOLATION MARKER|RAISED DOTTED INTERPOLATION MARKER|DOTTED TRANSPOSITION MARKER",
    "LEFT TRANSPOSITION BRACKET|RIGHT TRANSPOSITION BRACKET|RAISED SQUARE|LEFT RAISED OMISSION BRACKET",
    "RIGHT RAISED OMISSION BRACKET|EDITORIAL CORONIS|PARAGRAPHOS|FORKED PARAGRAPHOS|REVERSED FORKED PARAGRAPHOS",
    "HYPODIASTOLE|DOTTED OBELOS|DOWNWARDS ANCORA|UPWARDS ANCORA|DOTTED RIGHT-POINTING ANGLE|DOUBLE OBLIQUE HYPHEN",
    "INVERTED INTERROBANG|PALM BRANCH|HYPHEN WITH DIAERESIS|TILDE WITH RING ABOVE|LEFT LOW PARAPHRASE BRACKET",
    "RIGHT LOW PARAPHRASE BRACKET|TILDE WITH DOT ABOVE|TILDE WITH DOT BELOW|LEFT VERTICAL BAR WITH QUILL",
    "RIGHT VERTICAL BAR WITH QUILL|TOP LEFT HALF BRACKET|TOP RIGHT HALF BRACKET|BOTTOM LEFT HALF BRACKET",
    "BOTTOM RIGHT HALF BRACKET|LEFT SIDEWAYS U BRACKET|RIGHT SIDEWAYS U BRACKET|LEFT DOUBLE PARENTHESIS",
    "RIGHT DOUBLE PARENTHESIS|TWO DOTS OVER ONE DOT PUNCTUATION|ONE DOT OVER TWO DOTS PUNCTUATION",
    "SQUARED FOUR DOT PUNCTUATION|FIVE DOT MARK|REVERSED QUESTION MARK|VERTICAL TILDE|RING POINT",
    "WORD SEPARATOR MIDDLE DOT|TURNED COMMA|RAISED DOT|RAISED COMMA|TURNED SEMICOLON|DAGGER WITH LEFT GUARD",
    "DAGGER WITH RIGHT GUARD|TURNED DAGGER|TOP HALF SECTION SIGN|TWO-EM DASH|THREE-EM DASH|STENOGRAPHIC FULL STOP",
    "VERTICAL SIX DOTS|WIGGLY VERTICAL LINE|CAPITULUM|DOUBLE HYPHEN|REVERSED COMMA",
    "DOUBLE LOW-REVERSED-9 QUOTATION MARK|DASH WITH LEFT UPTURN|DOUBLE SUSPENSION MARK|INVERTED LOW KAVYKA",
    "INVERTED LOW KAVYKA WITH KAVYKA ABOVE|LOW KAVYKA|LOW KAVYKA WITH DOT|DOUBLE STACKED COMMA|DOTTED SOLIDUS",
    "TRIPLE DAGGER|MEDIEVAL COMMA|PARAGRAPHUS MARK|PUNCTUS ELEVATUS MARK|CORNISH VERSE DIVIDER",
    "CROSS PATTY WITH RIGHT CROSSBAR|CROSS PATTY WITH LEFT CROSSBAR|TIRONIAN SIGN CAPITAL ET",
    "MEDIEVAL EXCLAMATION MARK|MEDIEVAL QUESTION MARK|LEFT SQUARE BRACKET WITH STROKE",
    "RIGHT SQUARE BRACKET WITH STROKE|LEFT SQUARE BRACKET WITH DOUBLE STROKE",
    "RIGHT SQUARE BRACKET WITH DOUBLE STROKE|TOP HALF LEFT PARENTHESIS|TOP HALF RIGHT PARENTHESIS",
    "BOTTOM HALF LEFT PARENTHESIS|BOTTOM HALF RIGHT PARENTHESIS|OBLIQUE HYPHEN"]⟩,
  ⟨0x2E80, "CJK RADICAL ", [
    "REPEAT|CLIFF|SECOND ONE|SECOND TWO|SECOND THREE|PERSON|BOX|TABLE|KNIFE ONE|KNIFE TWO|DIVINATION|SEAL|SMALL ONE",
    "SMALL TWO|LAME ONE|LAME TWO|LAME THREE|LAME FOUR|SNAKE|THREAD|SNOUT ONE|SNOUT TWO|HEART ONE|HEART TWO|HAND|RAP"]⟩,
  ⟨0x2E9B, "CJK RADICAL ", [
    "CHOKE|SUN|MOON|DEATH|MOTHER|CIVILIAN|WATER ONE|WATER TWO|FIRE|PAW ONE|PAW TWO|SIMPLIFIED HALF TREE TRUNK|COW",
    "DOG|JADE|BOLT OF CLOTH|EYE|SPIRIT ONE|SPIRIT TWO|BAMBOO|SILK|C-SIMPLIFIED SILK|NET ONE|NET TWO|NET THREE",
    "NET FOUR|MESH|SHEEP|RAM|EWE|OLD|BRUSH ONE|BRUSH TWO|MEAT|MORTAR|GRASS ONE|GRASS TWO|GRASS THREE|TIGER|CLOTHES",
    "WEST ONE|WEST TWO|C-SIMPLIFIED SEE|SIMPLIFIED HORN|HORN|C-SIMPLIFIED SPEECH|C-SIMPLIFIED SHELL|FOOT",
    "C-SIMPLIFIED CART|SIMPLIFIED WALK|WALK ONE|WALK TWO|CITY|C-SIMPLIFIED GOLD|LONG ONE|LONG TWO|C-SIMPLIFIED LONG",
    "C-SIMPLIFIED GATE|MOUND ONE|MOUND TWO|RAIN|BLUE|C-SIMPLIFIED TANNED LEATHER|C-SIMPLIFIED LEAF",
    "C-SIMPLIFIED WIND|C-SIMPLIFIED FLY|EAT ONE|EAT TWO|EAT THREE|C-SIMPLIFIED EAT|HEAD|C-SIMPLIFIED HORSE|BONE",
    "GHOST|C-SIMPLIFIED FISH|C-SIMPLIFIED BIRD|C-SIMPLIFIED SALT|SIMPLIFIED WHEAT|SIMPLIFIED YELLOW",
    "C-SIMPLIFIED FROG|J-SIMPLIFIED EVEN|C-SIMPLIFIED EVEN|J-SIMPLIFIED TOOTH|C-SIMPLIFIED TOOTH",
    "J-SIMPLIFIED DRAGON|C-SIMPLIFIED DRAGON|TURTLE|J-SIMPLIFIED TURTLE|C-SIMPLIFIED TURTLE"]⟩,
  ⟨0x2F00, "KANGXI RADICAL ", [
    "ONE|LINE|DOT|SLASH|SECOND|HOOK|TWO|LID|MAN|LEGS|ENTER|EIGHT|DOWN BOX|COVER|ICE|TABLE|OPEN BOX|KNIFE|POWER|WRAP",
    "SPOON|RIGHT OPEN BOX|HIDING ENCLOSURE|TEN|DIVINATION|SEAL|CLIFF|PRIVATE|AGAIN|MOUTH|ENCLOSURE|EARTH|SCHOLAR|GO",
    "GO SLOWLY|EVENING|BIG|WOMAN|CHILD|ROOF|INCH|SMALL|LAME|CORPSE|SPROUT|MOUNTAIN|RIVER|WORK|ONESELF|TURBAN|DRY",
    "SHORT THREAD|DOTTED CLIFF|LONG STRIDE|TWO HANDS|SHOOT|BOW|SNOUT|BRISTLE|STEP|HEART|HALBERD|DOOR|HAND|BRANCH",
    "RAP|SCRIPT|DIPPER|AXE|SQUARE|NOT|SUN|SAY|MOON|TREE|LACK|STOP|DEATH|WEAPON|DO NOT|COMPARE|FUR|CLAN|STEAM|WATER",
    "FIRE|CLAW|FATHER|DOUBLE X|HALF TREE TRUNK|SLICE|FANG|COW|DOG|PROFOUND|JADE|MELON|TILE|SWEET|LIFE|USE|FIELD",
    "BOLT OF CLOTH|SICKNESS|DOTTED TENT|WHITE|SKIN|DISH|EYE|SPEAR|ARROW|STONE|SPIRIT|TRACK|GRAIN|CAVE|STAND|BAMBOO",
    "RICE|SILK|JAR|NET|SHEEP|FEATHER|OLD|AND|PLOW|EAR|BRUSH|MEAT|MINISTER|SELF|ARRIVE|MORTAR|TONGUE|OPPOSE|BOAT",
    "STOPPING|COLOR|GRASS|TIGER|INSECT|BLOOD|WALK ENCLOSURE|CLOTHES|WEST|SEE|HORN|SPEECH|VALLEY|BEAN|PIG|BADGER",
    "SHELL|RED|RUN|FOOT|BODY|CART|BITTER|MORNING|WALK|CITY|WINE|DISTINGUISH|VILLAGE|GOLD|LONG|GATE|MOUND|SLAVE",
    "SHORT TAILED BIRD|RAIN|BLUE|WRONG|FACE|LEATHER|TANNED LEATHER|LEEK|SOUND|LEAF|WIND|FLY|EAT|HEAD|FRAGRANT|HORSE",
    "BONE|TALL|HAIR|FIGHT|SACRIFICIAL WINE|CAULDRON|GHOST|FISH|BIRD|SALT|DEER|WHEAT|HEMP|YELLOW|MILLET|BLACK",
    "EMBROIDERY|FROG|TRIPOD|DRUM|RAT|NOSE|EVEN|TOOTH|DRAGON|TURTLE|FLUTE"]⟩,
  ⟨0x2FF0, "IDEOGRAPHIC DESCRIPTION CHARACTER ", [
    "LEFT TO RIGHT|ABOVE TO BELOW|LEFT TO MIDDLE AND RIGHT|ABOVE TO MIDDLE AND BELOW|FULL SURROUND",
    "SURROUND FROM ABOVE|SURROUND FROM BELOW|SURROUND FROM LEFT|SURROUND FROM UPPER LEFT|SURROUND FROM UPPER RIGHT",
    "SURROUND FROM LOWER LEFT|OVERLAID"]⟩,
  ⟨0x3000, "IDEOGRAPHIC ", ["SPACE|COMMA|FULL STOP"]⟩,
  ⟨0x3003, "", [
    "DITTO MARK|JAPANESE INDUSTRIAL STANDARD SYMBOL|IDEOGRAPHIC ITERATION MARK|IDEOGRAPHIC CLOSING MARK",
    "IDEOGRAPHIC NUMBER ZERO|LEFT ANGLE BRACKET|RIGHT ANGLE BRACKET|LEFT DOUBLE ANGLE BRACKET",
    "RIGHT DOUBLE ANGLE BRACKET|LEFT CORNER BRACKET|RIGHT CORNER BRACKET|LEFT WHITE CORNER BRACKET",
    "RIGHT WHITE CORNER BRACKET|LEFT BLACK LENTICULAR BRACKET|RIGHT BLACK LENTICULAR BRACKET|POSTAL MARK|GETA MARK",
    "LEFT TORTOISE SHELL BRACKET|RIGHT TORTOISE SHELL BRACKET|LEFT WHITE LENTICULAR BRACKET",
    "RIGHT WHITE LENTICULAR BRACKET|LEFT WHITE TORTOISE SHELL BRACKET|RIGHT WHITE TORTOISE SHELL BRACKET",
    "LEFT WHITE SQUARE BRACKET|RIGHT WHITE SQUARE BRACKET|WAVE DASH|REVERSED DOUBLE PRIME QUOTATION MARK",
    "DOUBLE PRIME QUOTATION MARK|LOW DOUBLE PRIME QUOTATION MARK|POSTAL MARK FACE"]⟩,
  ⟨0x3021, "HANGZHOU NUMERAL ", ["ONE|TWO|THREE|FOUR|FIVE|SIX|SEVEN|EIGHT|NINE"]⟩,
  ⟨0x302A, "IDEOGRAPHIC ", ["LEVEL TONE MARK|RISING TONE MARK|DEPARTING TONE MARK|ENTERING TONE MARK"]⟩,
  ⟨0x302E, "", ["HANGUL SINGLE DOT TONE MARK|HANGUL DOUBLE DOT TONE MARK|WAVY DASH"]⟩,
  ⟨0x3031, "VERTICAL KANA REPEAT ", [
    "MARK|WITH VOICED SOUND MARK|MARK UPPER HALF|WITH VOICED SOUND MARK UPPER HALF|MARK LOWER HALF"]⟩,
  ⟨0x3036, "", ["CIRCLED POSTAL MARK|IDEOGRAPHIC TELEGRAPH LINE FEED SEPARATOR SYMBOL"]⟩,
  ⟨0x3038, "HANGZHOU NUMERAL ", ["TEN|TWENTY|THIRTY"]⟩,
  ⟨0x303B, "", [
    "VERTICAL IDEOGRAPHIC ITERATION MARK|MASU MARK|PART ALTERNATION MARK|IDEOGRAPHIC VARIATION INDICATOR",
    "IDEOGRAPHIC HALF FILL SPACE"]⟩,
  ⟨0x3041, "HIRAGANA LETTER ", [
    "SMALL A|A|SMALL I|I|SMALL U|U|SMALL E|E|SMALL O|O|KA|GA|KI|GI|KU|GU|KE|GE|KO|GO|SA|ZA|SI|ZI|SU|ZU|SE|ZE|SO|ZO",
    "TA|DA|TI|DI|SMALL TU|TU|DU|TE|DE|TO|DO|NA|NI|NU|NE|NO|HA|BA|PA|HI|BI|PI|HU|BU|PU|HE|BE|PE|HO|BO|PO|MA|MI|MU|ME",
    "MO|SMALL YA|YA|SMALL YU|YU|SMALL YO|YO|RA|RI|RU|RE|RO|SMALL WA|WA|WI|WE|WO|N|VU|SMALL KA|SMALL KE"]⟩,
  ⟨0x3099, "COMBINING KATAKANA-HIRAGANA ", ["VOICED SOUND MARK|SEMI-VOICED SOUND MARK"]⟩,
  ⟨0x309B, "KATAKANA-HIRAGANA ", ["VOICED SOUND MARK|SEMI-VOICED SOUND MARK"]⟩,
  ⟨0x309D, "HIRAGANA ", ["ITERATION MARK|VOICED ITERATION MARK|DIGRAPH YORI"]⟩,
  ⟨0x30A0, "KATAKANA-HIRAGANA DOUBLE HYPHEN", [""]⟩,
  ⟨0x30A1, "KATAKANA LETTER ", [
    "SMALL A|A|SMALL I|I|SMALL U|U|SMALL E|E|SMALL O|O|KA|GA|KI|GI|KU|GU|KE|GE|KO|GO|SA|ZA|SI|ZI|SU|ZU|SE|ZE|SO|ZO",
    "TA|DA|TI|DI|SMALL TU|TU|DU|TE|DE|TO|DO|NA|NI|NU|NE|NO|HA|BA|PA|HI|BI|PI|HU|BU|PU|HE|BE|PE|HO|BO|PO|MA|MI|MU|ME",
    "MO|SMALL YA|YA|SMALL YU|YU|SMALL YO|YO|RA|RI|RU|RE|RO|SMALL WA|WA|WI|WE|WO|N|VU|SMALL KA|SMALL KE|VA|VI|VE|VO"]⟩,
  ⟨0x30FB, "", ["KATAKANA MIDDLE DOT|KATAKANA-HIRAGANA PROLONGED SOUND MARK"]⟩,
  ⟨0x30FD, "KATAKANA ", ["ITERATION MARK|VOICED ITERATION MARK|DIGRAPH KOTO"]⟩,
  ⟨0x3105, "BOPOMOFO LETTER ", [
    "B|P|M|F|D|T|N|L|G|K|H|J|Q|X|ZH|CH|SH|R|Z|C|S|A|O|E|EH|AI|EI|AU|OU|AN|EN|ANG|ENG|ER|I|U|IU|V|NG|GN|IH",
    "O WITH DOT ABOVE|NN"]⟩,
  ⟨0x3131, "HANGUL LETTER ", [
    "KIYEOK|SSANGKIYEOK|KIYEOK-SIOS|NIEUN|NIEUN-CIEUC|NIEUN-HIEUH|TIKEUT|SSANGTIKEUT|RIEUL|RIEUL-KIYEOK|RIEUL-MIEUM",
    "RIEUL-PIEUP|RIEUL-SIOS|RIEUL-THIEUTH|RIEUL-PHIEUPH|RIEUL-HIEUH|MIEUM|PIEUP|SSANGPIEUP|PIEUP-SIOS|SIOS",
    "SSANGSIOS|IEUNG|CIEUC|SSANGCIEUC|CHIEUCH|KHIEUKH|THIEUTH|PHIEUPH|HIEUH|A|AE|YA|YAE|EO|E|YEO|YE|O|WA|WAE|OE|YO",
    "U|WEO|WE|WI|YU|EU|YI|I"]⟩,
  ⟨0x3164, "HANGUL FILLER", [""]⟩,
  ⟨0x3165, "HANGUL LETTER ", [
    "SSANGNIEUN|NIEUN-TIKEUT|NIEUN-SIOS|NIEUN-PANSIOS|RIEUL-KIYEOK-SIOS|RIEUL-TIKEUT|RIEUL-PIEUP-SIOS|RIEUL-PANSIOS",
    "RIEUL-YEORINHIEUH|MIEUM-PIEUP|MIEUM-SIOS|MIEUM-PANSIOS|KAPYEOUNMIEUM|PIEUP-KIYEOK|PIEUP-TIKEUT",
    "PIEUP-SIOS-KIYEOK|PIEUP-SIOS-TIKEUT|PIEUP-CIEUC|PIEUP-THIEUTH|KAPYEOUNPIEUP|KAPYEOUNSSANGPIEUP|SIOS-KIYEOK",
    "SIOS-NIEUN|SIOS-TIKEUT|SIOS-PIEUP|SIOS-CIEUC|PANSIOS|SSANGIEUNG|YESIEUNG|YESIEUNG-SIOS|YESIEUNG-PANSIOS",
    "KAPYEOUNPHIEUPH|SSANGHIEUH|YEORINHIEUH|YO-YA|YO-YAE|YO-I|YU-YEO|YU-YE|YU-I|ARAEA|ARAEAE"]⟩,
  ⟨0x3190, "IDEOGRAPHIC ANNOTATION ", [
    "LINKING MARK|REVERSE MARK|ONE MARK|TWO MARK|THREE MARK|FOUR MARK|TOP MARK|MIDDLE MARK|BOTTOM MARK|FIRST MARK",
    "SECOND MARK|THIRD MARK|FOURTH MARK|HEAVEN MARK|EARTH MARK|MAN MARK"]⟩,
  ⟨0x31A0, "BOPOMOFO LETTER ", ["BU|ZI|JI|GU|EE|ENN|OO|ONN|IR|ANN|INN|UNN|IM|NGG|AINN|AUNN|AM|OM|ONG|INNN"]⟩,
  ⟨0x31B4, "BOPOMOFO FINAL LETTER ", ["P|T|K|H"]⟩,
  ⟨0x31B8, "BOPOMOFO ", ["LETTER GH|LETTER LH|LETTER ZY|FINAL LETTER G|LETTER GW|LETTER KW|LETTER OE|LETTER AH"]⟩,
  ⟨0x31C0, "CJK STROKE ", [
    "T|WG|XG|BXG|SW|HZZ|HZG|HP|HZWG|SZWG|HZT|HZZP|HPWG|HZW|HZZZ|N|H|S|P|SP|D|HZ|HG|SZ|SWZ|ST|SG|PD|PZ|TN|SZZ|SWG",
    "HXWG|HZZZG|PG|Q"]⟩,
  ⟨0x31F0, "KATAKANA LETTER SMALL ", ["KU|SI|SU|TO|NU|HA|HI|HU|HE|HO|MU|RA|RI|RU|RE|RO"]⟩,
  ⟨0x3200, "PARENTHESIZED HANGUL ", [
    "KIYEOK|NIEUN|TIKEUT|RIEUL|MIEUM|PIEUP|SIOS|IEUNG|CIEUC|CHIEUCH|KHIEUKH|THIEUTH|PHIEUPH|HIEUH|KIYEOK A|NIEUN A",
    "TIKEUT A|RIEUL A|MIEUM A|PIEUP A|SIOS A|IEUNG A|CIEUC A|CHIEUCH A|KHIEUKH A|THIEUTH A|PHIEUPH A|HIEUH A",
    "CIEUC U"]⟩,
  ⟨0x321D, "PARENTHESIZED KOREAN CHARACTER ", ["OJEON|O HU"]⟩,
  ⟨0x3220, "PARENTHESIZED IDEOGRAPH ", [
    "ONE|TWO|THREE|FOUR|FIVE|SIX|SEVEN|EIGHT|NINE|TEN|MOON|FIRE|WATER|WOOD|METAL|EARTH|SUN|STOCK|HAVE|SOCIETY|NAME",
    "SPECIAL|FINANCIAL|CONGRATULATION|LABOR|REPRESENT|CALL|STUDY|SUPERVISE|ENTERPRISE|RESOURCE|ALLIANCE|FESTIVAL",
    "REST|SELF|REACH"]⟩,
  ⟨0x3244, "CIRCLED IDEOGRAPH ", ["QUESTION|KINDERGARTEN|SCHOOL|KOTO"]⟩,
  ⟨0x3248, "CIRCLED NUMBER ", [
    "TEN ON BLACK SQUARE|TWENTY ON BLACK SQUARE|THIRTY ON BLACK SQUARE|FORTY ON BLACK SQUARE|FIFTY ON BLACK SQUARE",
    "SIXTY ON BLACK SQUARE|SEVENTY ON BLACK SQUARE|EIGHTY ON BLACK SQUARE"]⟩,
  ⟨0x3250, "PARTNERSHIP SIGN", [""]⟩,
  ⟨0x3251, "CIRCLED NUMBER TWENTY ", ["ONE|TWO|THREE|FOUR|FIVE|SIX|SEVEN|EIGHT|NINE"]⟩,
  ⟨0x325A, "CIRCLED NUMBER ", ["THIRTY|THIRTY ONE|THIRTY TWO|THIRTY THREE|THIRTY FOUR|THIRTY FIVE"]⟩,
  ⟨0x3260, "CIRCLED HANGUL ", [
    "KIYEOK|NIEUN|TIKEUT|RIEUL|MIEUM|PIEUP|SIOS|IEUNG|CIEUC|CHIEUCH|KHIEUKH|THIEUTH|PHIEUPH|HIEUH|KIYEOK A|NIEUN A",
    "TIKEUT A|RIEUL A|MIEUM A|PIEUP A|SIOS A|IEUNG A|CIEUC A|CHIEUCH A|KHIEUKH A|THIEUTH A|PHIEUPH A|HIEUH A"]⟩,
  ⟨0x327C, "CIRCLED KOREAN CHARACTER ", ["CHAMKO|JUEUI"]⟩,
  ⟨0x327E, "", ["CIRCLED HANGUL IEUNG U|KOREAN STANDARD SYMBOL"]⟩,
  ⟨0x3280, "CIRCLED IDEOGRAPH ", [
    "ONE|TWO|THREE|FOUR|FIVE|SIX|SEVEN|EIGHT|NINE|TEN|MOON|FIRE|WATER|WOOD|METAL|EARTH|SUN|STOCK|HAVE|SOCIETY|NAME",
    "SPECIAL|FINANCIAL|CONGRATULATION|LABOR|SECRET|MALE|FEMALE|SUITABLE|EXCELLENT|PRINT|ATTENTION|ITEM|REST|COPY",
    "CORRECT|HIGH|CENTRE|LOW|LEFT|RIGHT|MEDICINE|RELIGION|STUDY|SUPERVISE|ENTERPRISE|RESOURCE|ALLIANCE|NIGHT"]⟩,
  ⟨0x32B1, "CIRCLED NUMBER ", [
    "THIRTY SIX|THIRTY SEVEN|THIRTY EIGHT|THIRTY NINE|FORTY|FORTY ONE|FORTY TWO|FORTY THREE|FORTY FOUR|FORTY FIVE",
    "FORTY SIX|FORTY SEVEN|FORTY EIGHT|FORTY NINE|FIFTY"]⟩,
  ⟨0x32C0, "IDEOGRAPHIC TELEGRAPH SYMBOL FOR ", [
    "JANUARY|FEBRUARY|MARCH|APRIL|MAY|JUNE|JULY|AUGUST|SEPTEMBER|OCTOBER|NOVEMBER|DECEMBER"]⟩,
  ⟨0x32CC, "", ["SQUARE HG|SQUARE ERG|SQUARE EV|LIMITED LIABILITY SIGN"]⟩,
  ⟨0x32D0, "CIRCLED KATAKANA ", [
    "A|I|U|E|O|KA|KI|KU|KE|KO|SA|SI|SU|SE|SO|TA|TI|TU|TE|TO|NA|NI|NU|NE|NO|HA|HI|HU|HE|HO|MA|MI|MU|ME|MO|YA|YU|YO",
    "RA|RI|RU|RE|RO|WA|WI|WE|WO"]⟩,
  ⟨0x32FF, "SQUARE ", [
    "ERA NAME REIWA|APAATO|ARUHUA|ANPEA|AARU|ININGU|INTI|UON|ESUKUUDO|EEKAA|ONSU|OOMU|KAIRI|KARATTO|KARORII|GARON",
    "GANMA|GIGA|GINII|KYURII|GIRUDAA|KIRO|KIROGURAMU|KIROMEETORU|KIROWATTO|GURAMU|GURAMUTON|KURUZEIRO|KUROONE|KEESU",
    "KORUNA|KOOPO|SAIKURU|SANTIIMU|SIRINGU|SENTI|SENTO|DAASU|DESI|DORU|TON|NANO|NOTTO|HAITU|PAASENTO|PAATU|BAARERU",
    "PIASUTORU|PIKURU|PIKO|BIRU|HUARADDO|HUIITO|BUSSYERU|HURAN|HEKUTAARU|PESO|PENIHI|HERUTU|PENSU|PEEZI|BEETA",
    "POINTO|BORUTO|HON|PONDO|HOORU|HOON|MAIKURO|MAIRU|MAHHA|MARUKU|MANSYON|MIKURON|MIRI|MIRIBAARU|MEGA|MEGATON",
    "MEETORU|YAADO|YAARU|YUAN|RITTORU|RIRA|RUPII|RUUBURU|REMU|RENTOGEN|WATTO"]⟩,
  ⟨0x3358, "IDEOGRAPHIC TELEGRAPH SYMBOL FOR HOUR ", [
    "ZERO|ONE|TWO|THREE|FOUR|FIVE|SIX|SEVEN|EIGHT|NINE|TEN|ELEVEN|TWELVE|THIRTEEN|FOURTEEN|FIFTEEN|SIXTEEN",
    "SEVENTEEN|EIGHTEEN|NINETEEN|TWENTY|TWENTY-ONE|TWENTY-TWO|TWENTY-THREE|TWENTY-FOUR"]⟩,
  ⟨0x3371, "SQUARE ", [
    "HPA|DA|AU|BAR|OV|PC|DM|DM SQUARED|DM CUBED|IU|ERA NAME HEISEI|ERA NAME SYOUWA|ERA NAME TAISYOU|ERA NAME MEIZI",
    "CORPORATION|PA AMPS|NA|MU A|MA|KA|KB|MB|GB|CAL|KCAL|PF|NF|MU F|MU G|MG|KG|HZ|KHZ|MHZ|GHZ|THZ|MU L|ML|DL|KL|FM",
    "NM|MU M|MM|CM|KM|MM SQUARED|CM SQUARED|M SQUARED|KM SQUARED|MM CUBED|CM CUBED|M CUBED|KM CUBED|M OVER S",
    "M OVER S SQUARED|PA|KPA|MPA|GPA|RAD|RAD OVER S|RAD OVER S SQUARED|PS|NS|MU S|MS|PV|NV|MU V|MV|KV|MV MEGA|PW|NW",
    "MU W|MW|KW|MW MEGA|K OHM|M OHM|AM|BQ|CC|CD|C OVER KG|CO|DB|GY|HA|HP|IN|KK|KM CAPITAL|KT|LM|LN|LOG|LX|MB SMALL",
    "MIL|MOL|PH|PM|PPM|PR|SR|SV|WB|V OVER M|A OVER M"]⟩,
  ⟨0x33E0, "IDEOGRAPHIC TELEGRAPH SYMBOL FOR DAY ", [
    "ONE|TWO|THREE|FOUR|FIVE|SIX|SEVEN|EIGHT|NINE|TEN|ELEVEN|TWELVE|THIRTEEN|FOURTEEN|FIFTEEN|SIXTEEN|SEVENTEEN",
    "EIGHTEEN|NINETEEN|TWENTY|TWENTY-ONE|TWENTY-TWO|TWENTY-THREE|TWENTY-FOUR|TWENTY-FIVE|TWENTY-SIX|TWENTY-SEVEN",
    "TWENTY-EIGHT|TWENTY-NINE|THIRTY|THIRTY-ONE"]⟩,
  ⟨0x33FF, "SQUARE GAL", [""]⟩,
  ⟨0x4DC0, "HEXAGRAM FOR ", [
    "THE CREATIVE HEAVEN|THE RECEPTIVE EARTH|DIFFICULTY AT THE BEGINNING|YOUTHFUL FOLLY|WAITING|CONFLICT|THE ARMY",
    "HOLDING TOGETHER|SMALL TAMING|TREADING|PEACE|STANDSTILL|FELLOWSHIP|GREAT POSSESSION|MODESTY|ENTHUSIASM",
    "FOLLOWING|WORK ON THE DECAYED|APPROACH|CONTEMPLATION|BITING THROUGH|GRACE|SPLITTING APART|RETURN|INNOCENCE",
    "GREAT TAMING|MOUTH CORNERS|GREAT PREPONDERANCE|THE ABYSMAL WATER|THE CLINGING FIRE|INFLUENCE|DURATION|RETREAT",
    "GREAT POWER|PROGRESS|DARKENING OF THE LIGHT|THE FAMILY|OPPOSITION|OBSTRUCTION|DELIVERANCE|DECREASE|INCREASE",
    "BREAKTHROUGH|COMING TO MEET|GATHERING TOGETHER|PUSHING UPWARD|OPPRESSION|THE WELL|REVOLUTION|THE CAULDRON",
    "THE AROUSING THUNDER|THE KEEPING STILL MOUNTAIN|DEVELOPMENT|THE MARRYING MAIDEN|ABUNDANCE|THE WANDERER",
    "THE GENTLE WIND|THE JOYOUS LAKE|DISPERSION|LIMITATION|INNER TRUTH|SMALL PREPONDERANCE|AFTER COMPLETION",
    "BEFORE COMPLETION"]⟩]

/-- From U+A000 to U+FAFF. -/
def fromA000 : List NameRun := [
  ⟨0xA000, "YI SYLLABLE ", [
    "IT|IX|I|IP|IET|IEX|IE|IEP|AT|AX|A|AP|UOX|UO|UOP|OT|OX|O|OP|EX|E|WU|BIT|BIX|BI|BIP|BIET|BIEX|BIE|BIEP|BAT|BAX",
    "BA|BAP|BUOX|BUO|BUOP|BOT|BOX|BO|BOP|BEX|BE|BEP|BUT|BUX|BU|BUP|BURX|BUR|BYT|BYX|BY|BYP|BYRX|BYR|PIT|PIX|PI|PIP",
    "PIEX|PIE|PIEP|PAT|PAX|PA|PAP|PUOX|PUO|PUOP|POT|POX|PO|POP|PUT|PUX|PU|PUP|PURX|PUR|PYT|PYX|PY|PYP|PYRX|PYR|BBIT",
    "BBIX|BBI|BBIP|BBIET|BBIEX|BBIE|BBIEP|BBAT|BBAX|BBA|BBAP|BBUOX|BBUO|BBUOP|BBOT|BBOX|BBO|BBOP|BBEX|BBE|BBEP|BBUT",
    "BBUX|BBU|BBUP|BBURX|BBUR|BBYT|BBYX|BBY|BBYP|NBIT|NBIX|NBI|NBIP|NBIEX|NBIE|NBIEP|NBAT|NBAX|NBA|NBAP|NBOT|NBOX",
    "NBO|NBOP|NBUT|NBUX|NBU|NBUP|NBURX|NBUR|NBYT|NBYX|NBY|NBYP|NBYRX|NBYR|HMIT|HMIX|HMI|HMIP|HMIEX|HMIE|HMIEP|HMAT",
    "HMAX|HMA|HMAP|HMUOX|HMUO|HMUOP|HMOT|HMOX|HMO|HMOP|HMUT|HMUX|HMU|HMUP|HMURX|HMUR|HMYX|HMY|HMYP|HMYRX|HMYR|MIT",
    "MIX|MI|MIP|MIEX|MIE|MIEP|MAT|MAX|MA|MAP|MUOT|MUOX|MUO|MUOP|MOT|MOX|MO|MOP|MEX|ME|MUT|MUX|MU|MUP|MURX|MUR|MYT",
    "MYX|MY|MYP|FIT|FIX|FI|FIP|FAT|FAX|FA|FAP|FOX|FO|FOP|FUT|FUX|FU|FUP|FURX|FUR|FYT|FYX|FY|FYP|VIT|VIX|VI|VIP|VIET",
    "VIEX|VIE|VIEP|VAT|VAX|VA|VAP|VOT|VOX|VO|VOP|VEX|VEP|VUT|VUX|VU|VUP|VURX|VUR|VYT|VYX|VY|VYP|VYRX|VYR|DIT|DIX|DI",
    "DIP|DIEX|DIE|DIEP|DAT|DAX|DA|DAP|DUOX|DUO|DOT|DOX|DO|DOP|DEX|DE|DEP|DUT|DUX|DU|DUP|DURX|DUR|TIT|TIX|TI|TIP",
    "TIEX|TIE|TIEP|TAT|TAX|TA|TAP|TUOT|TUOX|TUO|TUOP|TOT|TOX|TO|TOP|TEX|TE|TEP|TUT|TUX|TU|TUP|TURX|TUR|DDIT|DDIX",
    "DDI|DDIP|DDIEX|DDIE|DDIEP|DDAT|DDAX|DDA|DDAP|DDUOX|DDUO|DDUOP|DDOT|DDOX|DDO|DDOP|DDEX|DDE|DDEP|DDUT|DDUX|DDU",
    "DDUP|DDURX|DDUR|NDIT|NDIX|NDI|NDIP|NDIEX|NDIE|NDAT|NDAX|NDA|NDAP|NDOT|NDOX|NDO|NDOP|NDEX|NDE|NDEP|NDUT|NDUX",
    "NDU|NDUP|NDURX|NDUR|HNIT|HNIX|HNI|HNIP|HNIET|HNIEX|HNIE|HNIEP|HNAT|HNAX|HNA|HNAP|HNUOX|HNUO|HNOT|HNOX|HNOP",
    "HNEX|HNE|HNEP|HNUT|NIT|NIX|NI|NIP|NIEX|NIE|NIEP|NAX|NA|NAP|NUOX|NUO|NUOP|NOT|NOX|NO|NOP|NEX|NE|NEP"]⟩,
  ⟨0xA191, "YI SYLLABLE ", [
    "NUT|NUX|NU|NUP|NURX|NUR|HLIT|HLIX|HLI|HLIP|HLIEX|HLIE|HLIEP|HLAT|HLAX|HLA|HLAP|HLUOX|HLUO|HLUOP|HLOX|HLO|HLOP",
    "HLEX|HLE|HLEP|HLUT|HLUX|HLU|HLUP|HLURX|HLUR|HLYT|HLYX|HLY|HLYP|HLYRX|HLYR|LIT|LIX|LI|LIP|LIET|LIEX|LIE|LIEP",
    "LAT|LAX|LA|LAP|LUOT|LUOX|LUO|LUOP|LOT|LOX|LO|LOP|LEX|LE|LEP|LUT|LUX|LU|LUP|LURX|LUR|LYT|LYX|LY|LYP|LYRX|LYR",
    "GIT|GIX|GI|GIP|GIET|GIEX|GIE|GIEP|GAT|GAX|GA|GAP|GUOT|GUOX|GUO|GUOP|GOT|GOX|GO|GOP|GET|GEX|GE|GEP|GUT|GUX|GU",
    "GUP|GURX|GUR|KIT|KIX|KI|KIP|KIEX|KIE|KIEP|KAT|KAX|KA|KAP|KUOX|KUO|KUOP|KOT|KOX|KO|KOP|KET|KEX|KE|KEP|KUT|KUX",
    "KU|KUP|KURX|KUR|GGIT|GGIX|GGI|GGIEX|GGIE|GGIEP|GGAT|GGAX|GGA|GGAP|GGUOT|GGUOX|GGUO|GGUOP|GGOT|GGOX|GGO|GGOP",
    "GGET|GGEX|GGE|GGEP|GGUT|GGUX|GGU|GGUP|GGURX|GGUR|MGIEX|MGIE|MGAT|MGAX|MGA|MGAP|MGUOX|MGUO|MGUOP|MGOT|MGOX|MGO",
    "MGOP|MGEX|MGE|MGEP|MGUT|MGUX|MGU|MGUP|MGURX|MGUR|HXIT|HXIX|HXI|HXIP|HXIET|HXIEX|HXIE|HXIEP|HXAT|HXAX|HXA|HXAP",
    "HXUOT|HXUOX|HXUO|HXUOP|HXOT|HXOX|HXO|HXOP|HXEX|HXE|HXEP|NGIEX|NGIE|NGIEP|NGAT|NGAX|NGA|NGAP|NGUOT|NGUOX|NGUO",
    "NGOT|NGOX|NGO|NGOP|NGEX|NGE|NGEP|HIT|HIEX|HIE|HAT|HAX|HA|HAP|HUOT|HUOX|HUO|HUOP|HOT|HOX|HO|HOP|HEX|HE|HEP|WAT",
    "WAX|WA|WAP|WUOX|WUO|WUOP|WOX|WO|WOP|WEX|WE|WEP|ZIT|ZIX|ZI|ZIP|ZIEX|ZIE|ZIEP|ZAT|ZAX|ZA|ZAP|ZUOX|ZUO|ZUOP|ZOT",
    "ZOX|ZO|ZOP|ZEX|ZE|ZEP|ZUT|ZUX|ZU|ZUP|ZURX|ZUR|ZYT|ZYX|ZY|ZYP|ZYRX|ZYR|CIT|CIX|CI|CIP|CIET|CIEX|CIE|CIEP|CAT",
    "CAX|CA|CAP|CUOX|CUO|CUOP|COT|COX|CO|COP|CEX|CE|CEP|CUT|CUX|CU|CUP|CURX|CUR|CYT|CYX|CY|CYP|CYRX|CYR|ZZIT|ZZIX",
    "ZZI|ZZIP|ZZIET|ZZIEX|ZZIE|ZZIEP|ZZAT|ZZAX|ZZA|ZZAP|ZZOX|ZZO|ZZOP|ZZEX|ZZE|ZZEP|ZZUX|ZZU|ZZUP|ZZURX|ZZUR|ZZYT",
    "ZZYX|ZZY|ZZYP|ZZYRX|ZZYR|NZIT|NZIX|NZI|NZIP|NZIEX|NZIE|NZIEP|NZAT|NZAX|NZA|NZAP|NZUOX|NZUO|NZOX|NZOP|NZEX|NZE",
    "NZUX|NZU|NZUP|NZURX|NZUR|NZYT|NZYX|NZY|NZYP|NZYRX|NZYR|SIT|SIX|SI|SIP|SIEX|SIE|SIEP|SAT|SAX|SA|SAP|SUOX|SUO",
    "SUOP|SOT|SOX|SO|SOP|SEX|SE|SEP|SUT|SUX|SU|SUP"]⟩,
  ⟨0xA322, "YI SYLLABLE ", [
    "SURX|SUR|SYT|SYX|SY|SYP|SYRX|SYR|SSIT|SSIX|SSI|SSIP|SSIEX|SSIE|SSIEP|SSAT|SSAX|SSA|SSAP|SSOT|SSOX|SSO|SSOP",
    "SSEX|SSE|SSEP|SSUT|SSUX|SSU|SSUP|SSYT|SSYX|SSY|SSYP|SSYRX|SSYR|ZHAT|ZHAX|ZHA|ZHAP|ZHUOX|ZHUO|ZHUOP|ZHOT|ZHOX",
    "ZHO|ZHOP|ZHET|ZHEX|ZHE|ZHEP|ZHUT|ZHUX|ZHU|ZHUP|ZHURX|ZHUR|ZHYT|ZHYX|ZHY|ZHYP|ZHYRX|ZHYR|CHAT|CHAX|CHA|CHAP",
    "CHUOT|CHUOX|CHUO|CHUOP|CHOT|CHOX|CHO|CHOP|CHET|CHEX|CHE|CHEP|CHUX|CHU|CHUP|CHURX|CHUR|CHYT|CHYX|CHY|CHYP|CHYRX",
    "CHYR|RRAX|RRA|RRUOX|RRUO|RROT|RROX|RRO|RROP|RRET|RREX|RRE|RREP|RRUT|RRUX|RRU|RRUP|RRURX|RRUR|RRYT|RRYX|RRY",
    "RRYP|RRYRX|RRYR|NRAT|NRAX|NRA|NRAP|NROX|NRO|NROP|NRET|NREX|NRE|NREP|NRUT|NRUX|NRU|NRUP|NRURX|NRUR|NRYT|NRYX",
    "NRY|NRYP|NRYRX|NRYR|SHAT|SHAX|SHA|SHAP|SHUOX|SHUO|SHUOP|SHOT|SHOX|SHO|SHOP|SHET|SHEX|SHE|SHEP|SHUT|SHUX|SHU",
    "SHUP|SHURX|SHUR|SHYT|SHYX|SHY|SHYP|SHYRX|SHYR|RAT|RAX|RA|RAP|RUOX|RUO|RUOP|ROT|ROX|RO|ROP|REX|RE|REP|RUT|RUX",
    "RU|RUP|RURX|RUR|RYT|RYX|RY|RYP|RYRX|RYR|JIT|JIX|JI|JIP|JIET|JIEX|JIE|JIEP|JUOT|JUOX|JUO|JUOP|JOT|JOX|JO|JOP",
    "JUT|JUX|JU|JUP|JURX|JUR|JYT|JYX|JY|JYP|JYRX|JYR|QIT|QIX|QI|QIP|QIET|QIEX|QIE|QIEP|QUOT|QUOX|QUO|QUOP|QOT|QOX",
    "QO|QOP|QUT|QUX|QU|QUP|QURX|QUR|QYT|QYX|QY|QYP|QYRX|QYR|JJIT|JJIX|JJI|JJIP|JJIET|JJIEX|JJIE|JJIEP|JJUOX|JJUO",
    "JJUOP|JJOT|JJOX|JJO|JJOP|JJUT|JJUX|JJU|JJUP|JJURX|JJUR|JJYT|JJYX|JJY|JJYP|NJIT|NJIX|NJI|NJIP|NJIET|NJIEX|NJIE",
    "NJIEP|NJUOX|NJUO|NJOT|NJOX|NJO|NJOP|NJUX|NJU|NJUP|NJURX|NJUR|NJYT|NJYX|NJY|NJYP|NJYRX|NJYR|NYIT|NYIX|NYI|NYIP",
    "NYIET|NYIEX|NYIE|NYIEP|NYUOX|NYUO|NYUOP|NYOT|NYOX|NYO|NYOP|NYUT|NYUX|NYU|NYUP|XIT|XIX|XI|XIP|XIET|XIEX|XIE",
    "XIEP|XUOX|XUO|XOT|XOX|XO|XOP|XYT|XYX|XY|XYP|XYRX|XYR|YIT|YIX|YI|YIP|YIET|YIEX|YIE|YIEP|YUOT|YUOX|YUO|YUOP|YOT",
    "YOX|YO|YOP|YUT|YUX|YU|YUP|YURX|YUR|YYT|YYX|YY|YYP|YYRX|YYR"]⟩,
  ⟨0xA490, "YI RADICAL ", [
    "QOT|LI|KIT|NYIP|CYP|SSI|GGOP|GEP|MI|HXIT|LYR|BBUT|MOP|YO|PUT|HXUO|TAT|GA|ZUP|CYT|DDUR|BUR|GGUO|NYOP|TU|OP|JJUT",
    "ZOT|PYT|HMO|YIT|VUR|SHY|VEP|ZA|JO|NZUP|JJY|GOT|JJIE|WO|DU|SHUR|LIE|CY|CUOP|CIP|HXOP|SHAT|ZUR|SHOP|CHE|ZZIET",
    "NBIE|KE"]⟩,
  ⟨0xA4D0, "LISU LETTER ", [
    "BA|PA|PHA|DA|TA|THA|GA|KA|KHA|JA|CA|CHA|DZA|TSA|TSHA|MA|NA|LA|SA|ZHA|ZA|NGA|HA|XA|HHA|FA|WA|SHA|YA|GHA|A|AE|E",
    "EU|I|O|U|UE|UH|OE|TONE MYA TI|TONE NA PO|TONE MYA CYA|TONE MYA BO|TONE MYA NA|TONE MYA JEU"]⟩,
  ⟨0xA4FE, "LISU PUNCTUATION ", ["COMMA|FULL STOP"]⟩,
  ⟨0xA500, "VAI SYLLABLE ", [
    "EE|EEN|HEE|WEE|WEEN|PEE|BHEE|BEE|MBEE|KPEE|MGBEE|GBEE|FEE|VEE|TEE|THEE|DHEE|DHHEE|LEE|REE|DEE|NDEE|SEE|SHEE",
    "ZEE|ZHEE|CEE|JEE|NJEE|YEE|KEE|NGGEE|GEE|MEE|NEE|NYEE|I|IN|HI|HIN|WI|WIN|PI|BHI|BI|MBI|KPI|MGBI|GBI|FI|VI|TI",
    "THI|DHI|DHHI|LI|RI|DI|NDI|SI|SHI|ZI|ZHI|CI|JI|NJI|YI|KI|NGGI|GI|MI|NI|NYI|A|AN|NGAN|HA|HAN|WA|WAN|PA|BHA|BA",
    "MBA|KPA|KPAN|MGBA|GBA|FA|VA|TA|THA|DHA|DHHA|LA|RA|DA|NDA|SA|SHA|ZA|ZHA|CA|JA|NJA|YA|KA|KAN|NGGA|GA|MA|NA|NYA",
    "OO|OON|HOO|WOO|WOON|POO|BHOO|BOO|MBOO|KPOO|MGBOO|GBOO|FOO|VOO|TOO|THOO|DHOO|DHHOO|LOO|ROO|DOO|NDOO|SOO|SHOO",
    "ZOO|ZHOO|COO|JOO|NJOO|YOO|KOO|NGGOO|GOO|MOO|NOO|NYOO|U|UN|HU|HUN|WU|WUN|PU|BHU|BU|MBU|KPU|MGBU|GBU|FU|VU|TU",
    "THU|DHU|DHHU|LU|RU|DU|NDU|SU|SHU|ZU|ZHU|CU|JU|NJU|YU|KU|NGGU|GU|MU|NU|NYU|O|ON|NGON|HO|HON|WO|WON|PO|BHO|BO",
    "MBO|KPO|MGBO|GBO|GBON|FO|VO|TO|THO|DHO|DHHO|LO|RO|DO|NDO|SO|SHO|ZO|ZHO|CO|JO|NJO|YO|KO|NGGO|GO|MO|NO|NYO|E|EN",
    "NGEN|HE|HEN|WE|WEN|PE|BHE|BE|MBE|KPE|KPEN|MGBE|GBE|GBEN|FE|VE|TE|THE|DHE|DHHE|LE|RE|DE|NDE|SE|SHE|ZE|ZHE|CE|JE",
    "NJE|YE|KE|NGGE|NGGEN|GE|GEN|ME|NE|NYE|NG|LENGTHENER"]⟩,
  ⟨0xA60D, "VAI ", ["COMMA|FULL STOP|QUESTION MARK"]⟩,
  ⟨0xA610, "VAI SYLLABLE NDOLE ", ["FA|KA|SOO"]⟩,
  ⟨0xA613, "VAI SYMBOL ", ["FEENG|KEENG|TING|NII|BANG|FAA|TAA|DANG|DOONG|KUNG|TONG|DO-O|JONG"]⟩,
  ⟨0xA620, "VAI DIGIT ", ["ZERO|ONE|TWO|THREE|FOUR|FIVE|SIX|SEVEN|EIGHT|NINE"]⟩,
  ⟨0xA62A, "VAI SYLLABLE NDOLE ", ["MA|DO"]⟩,
  ⟨0xA640, "CYRILLIC ", [
    "CAPITAL LETTER ZEMLYA|SMALL LETTER ZEMLYA|CAPITAL LETTER DZELO|SMALL LETTER DZELO|CAPITAL LETTER REVERSED DZE",
    "SMALL LETTER REVERSED DZE|CAPITAL LETTER IOTA|SMALL LETTER IOTA|CAPITAL LETTER DJERV|SMALL LETTER DJERV",
    "CAPITAL LETTER MONOGRAPH UK|SMALL LETTER MONOGRAPH UK|CAPITAL LETTER BROAD OMEGA|SMALL LETTER BROAD OMEGA",
    "CAPITAL LETTER NEUTRAL YER|SMALL LETTER NEUTRAL YER|CAPITAL LETTER YERU WITH BACK YER",
    "SMALL LETTER YERU WITH BACK YER|CAPITAL LETTER IOTIFIED YAT|SMALL LETTER IOTIFIED YAT",
    "CAPITAL LETTER REVERSED YU|SMALL LETTER REVERSED YU|CAPITAL LETTER IOTIFIED A|SMALL LETTER IOTIFIED A",
    "CAPITAL LETTER CLOSED LITTLE YUS|SMALL LETTER CLOSED LITTLE YUS|CAPITAL LETTER BLENDED YUS",
    "SMALL LETTER BLENDED YUS|CAPITAL LETTER IOTIFIED CLOSED LITTLE YUS|SMALL LETTER IOTIFIED CLOSED LITTLE YUS",
    "CAPITAL LETTER YN|SMALL LETTER YN|CAPITAL LETTER REVERSED TSE|SMALL LETTER REVERSED TSE|CAPITAL LETTER SOFT DE",
    "SMALL LETTER SOFT DE|CAPITAL LETTER SOFT EL|SMALL LETTER SOFT EL|CAPITAL LETTER SOFT EM|SMALL LETTER SOFT EM",
    "CAPITAL LETTER MONOCULAR O|SMALL LETTER MONOCULAR O|CAPITAL LETTER BINOCULAR O|SMALL LETTER BINOCULAR O",
    "CAPITAL LETTER DOUBLE MONOCULAR O|SMALL LETTER DOUBLE MONOCULAR O|LETTER MULTIOCULAR O"]⟩,
  ⟨0xA66F, "COMBINING CYRILLIC ", ["VZMET|TEN MILLIONS SIGN|HUNDRED MILLIONS SIGN|THOUSAND MILLIONS SIGN"]⟩,
  ⟨0xA673, "SLAVONIC ASTERISK", [""]⟩,
  ⟨0xA674, "COMBINING CYRILLIC LETTER ", ["UKRAINIAN IE|I|YI|U|HARD SIGN|YERU|SOFT SIGN|OMEGA"]⟩,
  ⟨0xA67C, "COMBINING CYRILLIC ", ["KAVYKA|PAYEROK"]⟩,
  ⟨0xA67E, "CYRILLIC ", [
    "KAVYKA|PAYEROK|CAPITAL LETTER DWE|SMALL LETTER DWE|CAPITAL LETTER DZWE|SMALL LETTER DZWE|CAPITAL LETTER ZHWE",
    "SMALL LETTER ZHWE|CAPITAL LETTER CCHE|SMALL LETTER CCHE|CAPITAL LETTER DZZE|SMALL LETTER DZZE",
    "CAPITAL LETTER TE WITH MIDDLE HOOK|SMALL LETTER TE WITH MIDDLE HOOK|CAPITAL LETTER TWE|SMALL LETTER TWE",
    "CAPITAL LETTER TSWE|SMALL LETTER TSWE|CAPITAL LETTER TSSE|SMALL LETTER TSSE|CAPITAL LETTER TCHE",
    "SMALL LETTER TCHE|CAPITAL LETTER HWE|SMALL LETTER HWE|CAPITAL LETTER SHWE|SMALL LETTER SHWE",
    "CAPITAL LETTER DOUBLE O|SMALL LETTER DOUBLE O|CAPITAL LETTER CROSSED O|SMALL LETTER CROSSED O"]⟩,
  ⟨0xA69C, "MODIFIER LETTER CYRILLIC ", ["HARD SIGN|SOFT SIGN"]⟩,
  ⟨0xA69E, "COMBINING CYRILLIC LETTER ", ["EF|IOTIFIED E"]⟩,
  ⟨0xA6A0, "BAMUM LETTER ", [
    "A|KA|U|KU|EE|REE|TAE|O|NYI|I|LA|PA|RII|RIEE|LEEEE|MEEEE|TAA|NDAA|NJAEM|M|SUU|MU|SHII|SI|SHEUX|SEUX|KYEE|KET",
    "NUAE|NU|NJUAE|YOQ|SHU|YUQ|YA|NSHA|KEUX|PEUX|NJEE|NTEE|PUE|WUE|PEE|FEE|RU|LU|MI|NI|REUX|RAE|KEN|NGKWAEN|NGGA",
    "NGA|SHO|PUAE|FU|FOM|WA|NA|LI|PI|LOQ|KO|MBEN|REN|MEN|MA|TI|KI|MO|MBAA|TET|KPA|TEN|NTUU|SAMBA|FAAMAE|KOVUU",
    "KOGHOM"]⟩,
  ⟨0xA6F0, "BAMUM ", [
    "COMBINING MARK KOQNDON|COMBINING MARK TUKWENTIS|NJAEMLI|FULL STOP|COLON|COMMA|SEMICOLON|QUESTION MARK"]⟩,
  ⟨0xA700, "MODIFIER LETTER CHINESE TONE ", [
    "YIN PING|YANG PING|YIN SHANG|YANG SHANG|YIN QU|YANG QU|YIN RU|YANG RU"]⟩,
  ⟨0xA708, "MODIFIER LETTER ", [
    "EXTRA-HIGH DOTTED TONE BAR|HIGH DOTTED TONE BAR|MID DOTTED TONE BAR|LOW DOTTED TONE BAR",
    "EXTRA-LOW DOTTED TONE BAR|EXTRA-HIGH DOTTED LEFT-STEM TONE BAR|HIGH DOTTED LEFT-STEM TONE BAR",
    "MID DOTTED LEFT-STEM TONE BAR|LOW DOTTED LEFT-STEM TONE BAR|EXTRA-LOW DOTTED LEFT-STEM TONE BAR",
    "EXTRA-HIGH LEFT-STEM TONE BAR|HIGH LEFT-STEM TONE BAR|MID LEFT-STEM TONE BAR|LOW LEFT-STEM TONE BAR",
    "EXTRA-LOW LEFT-STEM TONE BAR|DOT VERTICAL BAR|DOT SLASH|DOT HORIZONTAL BAR|LOWER RIGHT CORNER ANGLE",
    "RAISED UP ARROW|RAISED DOWN ARROW|RAISED EXCLAMATION MARK|RAISED INVERTED EXCLAMATION MARK",
    "LOW INVERTED EXCLAMATION MARK|STRESS AND HIGH TONE|STRESS AND LOW TONE"]⟩,
  ⟨0xA722, "LATIN ", [
    "CAPITAL LETTER EGYPTOLOGICAL ALEF|SMALL LETTER EGYPTOLOGICAL ALEF|CAPITAL LETTER EGYPTOLOGICAL AIN",
    "SMALL LETTER EGYPTOLOGICAL AIN|CAPITAL LETTER HENG|SMALL LETTER HENG|CAPITAL LETTER TZ|SMALL LETTER TZ",
    "CAPITAL LETTER TRESILLO|SMALL LETTER TRESILLO|CAPITAL LETTER CUATRILLO|SMALL LETTER CUATRILLO",
    "CAPITAL LETTER CUATRILLO WITH COMMA|SMALL LETTER CUATRILLO WITH COMMA|LETTER SMALL CAPITAL F",
    "LETTER SMALL CAPITAL S|CAPITAL LETTER AA|SMALL LETTER AA|CAPITAL LETTER AO|SMALL LETTER AO|CAPITAL LETTER AU",
    "SMALL LETTER AU|CAPITAL LETTER AV|SMALL LETTER AV|CAPITAL LETTER AV WITH HORIZONTAL BAR",
    "SMALL LETTER AV WITH HORIZONTAL BAR|CAPITAL LETTER AY|SMALL LETTER AY|CAPITAL LETTER REVERSED C WITH DOT",
    "SMALL LETTER REVERSED C WITH DOT|CAPITAL LETTER K WITH STROKE|SMALL LETTER K WITH STROKE",
    "CAPITAL LETTER K WITH DIAGONAL STROKE|SMALL LETTER K WITH DIAGONAL STROKE",
    "CAPITAL LETTER K WITH STROKE AND DIAGONAL STROKE|SMALL LETTER K WITH STROKE AND DIAGONAL STROKE",
    "CAPITAL LETTER BROKEN L|SMALL LETTER BROKEN L|CAPITAL LETTER L WITH HIGH STROKE",
    "SMALL LETTER L WITH HIGH STROKE|CAPITAL LETTER O WITH LONG STROKE OVERLAY",
    "SMALL LETTER O WITH LONG STROKE OVERLAY|CAPITAL LETTER O WITH LOOP|SMALL LETTER O WITH LOOP|CAPITAL LETTER OO",
    "SMALL LETTER OO|CAPITAL LETTER P WITH STROKE THROUGH DESCENDER|SMALL LETTER P WITH STROKE THROUGH DESCENDER",
    "CAPITAL LETTER P WITH FLOURISH|SMALL LETTER P WITH FLOURISH|CAPITAL LETTER P WITH SQUIRREL TAIL",
    "SMALL LETTER P WITH SQUIRREL TAIL|CAPITAL LETTER Q WITH STROKE THROUGH DESCENDER",
    "SMALL LETTER Q WITH STROKE THROUGH DESCENDER|CAPITAL LETTER Q WITH DIAGONAL STROKE",
    "SMALL LETTER Q WITH DIAGONAL STROKE|CAPITAL LETTER R ROTUNDA|SMALL LETTER R ROTUNDA|CAPITAL LETTER RUM ROTUNDA",
    "SMALL LETTER RUM ROTUNDA|CAPITAL LETTER V WITH DIAGONAL STROKE|SMALL LETTER V WITH DIAGONAL STROKE",
    "CAPITAL LETTER VY|SMALL LETTER VY|CAPITAL LETTER VISIGOTHIC Z|SMALL LETTER VISIGOTHIC Z",
    "CAPITAL LETTER THORN WITH STROKE|SMALL LETTER THORN WITH STROKE",
    "CAPITAL LETTER THORN WITH STROKE THROUGH DESCENDER|SMALL LETTER THORN WITH STROKE THROUGH DESCENDER",
    "CAPITAL LETTER VEND|SMALL LETTER VEND|CAPITAL LETTER ET|SMALL LETTER ET|CAPITAL LETTER IS|SMALL LETTER IS",
    "CAPITAL LETTER CON|SMALL LETTER CON"]⟩,
  ⟨0xA770, "MODIFIER LETTER US", [""]⟩,
  ⟨0xA771, "LATIN SMALL LETTER ", ["DUM|LUM|MUM|NUM|RUM"]⟩,
  ⟨0xA776, "LATIN ", [
    "LETTER SMALL CAPITAL RUM|SMALL LETTER TUM|SMALL LETTER UM|CAPITAL LETTER INSULAR D|SMALL LETTER INSULAR D",
    "CAPITAL LETTER INSULAR F|SMALL LETTER INSULAR F|CAPITAL LETTER INSULAR G|CAPITAL LETTER TURNED INSULAR G",
    "SMALL LETTER TURNED INSULAR G|CAPITAL LETTER TURNED L|SMALL LETTER TURNED L|CAPITAL LETTER INSULAR R",
    "SMALL LETTER INSULAR R|CAPITAL LETTER INSULAR S|SMALL LETTER INSULAR S|CAPITAL LETTER INSULAR T",
    "SMALL LETTER INSULAR T"]⟩,
  ⟨0xA788, "MODIFIER LETTER ", ["LOW CIRCUMFLEX ACCENT|COLON|SHORT EQUALS SIGN"]⟩,
  ⟨0xA78B, "LATIN ", [
    "CAPITAL LETTER SALTILLO|SMALL LETTER SALTILLO|CAPITAL LETTER TURNED H",
    "SMALL LETTER L WITH RETROFLEX HOOK AND BELT|LETTER SINOLOGICAL DOT|CAPITAL LETTER N WITH DESCENDER",
    "SMALL LETTER N WITH DESCENDER|CAPITAL LETTER C WITH BAR|SMALL LETTER C WITH BAR",
    "SMALL LETTER C WITH PALATAL HOOK|SMALL LETTER H WITH PALATAL HOOK|CAPITAL LETTER B WITH FLOURISH",
    "SMALL LETTER B WITH FLOURISH|CAPITAL LETTER F WITH STROKE|SMALL LETTER F WITH STROKE|CAPITAL LETTER VOLAPUK AE",
    "SMALL LETTER VOLAPUK AE|CAPITAL LETTER VOLAPUK OE|SMALL LETTER VOLAPUK OE|CAPITAL LETTER VOLAPUK UE",
    "SMALL LETTER VOLAPUK UE|CAPITAL LETTER G WITH OBLIQUE STROKE|SMALL LETTER G WITH OBLIQUE STROKE",
    "CAPITAL LETTER K WITH OBLIQUE STROKE|SMALL LETTER K WITH OBLIQUE STROKE|CAPITAL LETTER N WITH OBLIQUE STROKE",
    "SMALL LETTER N WITH OBLIQUE STROKE|CAPITAL LETTER R WITH OBLIQUE STROKE|SMALL LETTER R WITH OBLIQUE STROKE",
    "CAPITAL LETTER S WITH OBLIQUE STROKE|SMALL LETTER S WITH OBLIQUE STROKE"]⟩,
  ⟨0xA7AA, "LATIN CAPITAL LETTER ", ["H WITH HOOK|REVERSED OPEN E|SCRIPT G|L WITH BELT|SMALL CAPITAL I"]⟩,
  ⟨0xA7AF, "LATIN LETTER SMALL CAPITAL Q", [""]⟩,
  ⟨0xA7B0, "LATIN CAPITAL LETTER ", ["TURNED K|TURNED T|J WITH CROSSED-TAIL|CHI|BETA"]⟩,
  ⟨0xA7B5, "LATIN ", [
    "SMALL LETTER BETA|CAPITAL LETTER OMEGA|SMALL LETTER OMEGA|CAPITAL LETTER U WITH STROKE",
    "SMALL LETTER U WITH STROKE|CAPITAL LETTER GLOTTAL A|SMALL LETTER GLOTTAL A|CAPITAL LETTER GLOTTAL I",
    "SMALL LETTER GLOTTAL I|CAPITAL LETTER GLOTTAL U|SMALL LETTER GLOTTAL U|CAPITAL LETTER OLD POLISH O",
    "SMALL LETTER OLD POLISH O|CAPITAL LETTER ANGLICANA W|SMALL LETTER ANGLICANA W"]⟩,
  ⟨0xA7C4, "LATIN CAPITAL LETTER ", [
    "C WITH PALATAL HOOK|S WITH HOOK|Z WITH PALATAL HOOK|D WITH SHORT STROKE OVERLAY"]⟩,
  ⟨0xA7C8, "LATIN ", [
    "SMALL LETTER D WITH SHORT STROKE OVERLAY|CAPITAL LETTER S WITH SHORT STROKE OVERLAY",
    "SMALL LETTER S WITH SHORT STROKE OVERLAY"]⟩,
  ⟨0xA7D0, "LATIN ", ["CAPITAL LETTER CLOSED INSULAR G|SMALL LETTER CLOSED INSULAR G"]⟩,
  ⟨0xA7D3, "LATIN SMALL LETTER DOUBLE THORN", [""]⟩,
  ⟨0xA7D5, "LATIN ", [
    "SMALL LETTER DOUBLE WYNN|CAPITAL LETTER MIDDLE SCOTS S|SMALL LETTER MIDDLE SCOTS S|CAPITAL LETTER SIGMOID S",
    "SMALL LETTER SIGMOID S"]⟩,
  ⟨0xA7F2, "MODIFIER LETTER CAPITAL ", ["C|F|Q"]⟩,
  ⟨0xA7F5, "", [
    "LATIN CAPITAL LETTER REVERSED HALF H|LATIN SMALL LETTER REVERSED HALF H|LATIN EPIGRAPHIC LETTER SIDEWAYS I",
    "MODIFIER LETTER CAPITAL H WITH STROKE|MODIFIER LETTER SMALL LIGATURE OE|LATIN LETTER SMALL CAPITAL TURNED M"]⟩,
  ⟨0xA7FB, "LATIN EPIGRAPHIC LETTER ", ["REVERSED F|REVERSED P|INVERTED M|I LONGA|ARCHAIC M"]⟩,
  ⟨0xA800, "SYLOTI NAGRI ", [
    "LETTER A|LETTER I|SIGN DVISVARA|LETTER U|LETTER E|LETTER O|SIGN HASANTA|LETTER KO|LETTER KHO|LETTER GO",
    "LETTER GHO|SIGN ANUSVARA"]⟩,
  ⟨0xA80C, "SYLOTI NAGRI LETTER ", [
    "CO|CHO|JO|JHO|TTO|TTHO|DDO|DDHO|TO|THO|DO|DHO|NO|PO|PHO|BO|BHO|MO|RO|LO|RRO|SO|HO"]⟩,
  ⟨0xA823, "SYLOTI NAGRI VOWEL SIGN ", ["A|I|U|E|OO"]⟩,
  ⟨0xA828, "SYLOTI NAGRI POETRY MARK-", ["1|2|3|4"]⟩,
  ⟨0xA82C, "SYLOTI NAGRI SIGN ALTERNATE HASANTA", [""]⟩,
  ⟨0xA830, "NORTH INDIC FRACTION ", [
    "ONE QUARTER|ONE HALF|THREE QUARTERS|ONE SIXTEENTH|ONE EIGHTH|THREE SIXTEENTHS"]⟩,
  ⟨0xA836, "NORTH INDIC ", ["QUARTER MARK|PLACEHOLDER MARK|RUPEE MARK|QUANTITY MARK"]⟩,
  ⟨0xA840, "PHAGS-PA LETTER ", [
    "KA|KHA|GA|NGA|CA|CHA|JA|NYA|TA|THA|DA|NA|PA|PHA|BA|MA|TSA|TSHA|DZA|WA|ZHA|ZA|SMALL A|YA|RA|LA|SHA|SA|HA|A|I|U",
    "E|O|QA|XA|FA|GGA|EE"]⟩,
  ⟨0xA867, "PHAGS-PA SUBJOINED LETTER ", ["WA|YA"]⟩,
  ⟨0xA869, "PHAGS-PA LETTER ", ["TTA|TTHA|DDA|NNA|ALTERNATE YA|VOICELESS SHA|VOICED HA|ASPIRATED FA"]⟩,
  ⟨0xA871, "PHAGS-PA ", [
    "SUBJOINED LETTER RA|SUPERFIXED LETTER RA|LETTER CANDRABINDU|SINGLE HEAD MARK|DOUBLE HEAD MARK|MARK SHAD",
    "MARK DOUBLE SHAD"]⟩,
  ⟨0xA880, "SAURASHTRA SIGN ", ["ANUSVARA|VISARGA"]⟩,
  ⟨0xA882, "SAURASHTRA LETTER ", [
    "A|AA|I|II|U|UU|VOCALIC R|VOCALIC RR|VOCALIC L|VOCALIC LL|E|EE|AI|O|OO|AU|KA|KHA|GA|GHA|NGA|CA|CHA|JA|JHA|NYA",
    "TTA|TTHA|DDA|DDHA|NNA|TA|THA|DA|DHA|NA|PA|PHA|BA|BHA|MA|YA|RA|LA|VA|SHA|SSA|SA|HA|LLA"]⟩,
  ⟨0xA8B4, "SAURASHTRA CONSONANT SIGN HAARU", [""]⟩,
  ⟨0xA8B5, "SAURASHTRA VOWEL SIGN ", ["AA|I|II|U|UU|VOCALIC R|VOCALIC RR|VOCALIC L|VOCALIC LL|E|EE|AI|O|OO|AU"]⟩,
  ⟨0xA8C4, "SAURASHTRA SIGN ", ["VIRAMA|CANDRABINDU"]⟩,
  ⟨0xA8CE, "SAURASHTRA ", ["DANDA|DOUBLE DANDA"]⟩,
  ⟨0xA8D0, "SAURASHTRA DIGIT ", ["ZERO|ONE|TWO|THREE|FOUR|FIVE|SIX|SEVEN|EIGHT|NINE"]⟩,
  ⟨0xA8E0, "COMBINING DEVANAGARI DIGIT ", ["ZERO|ONE|TWO|THREE|FOUR|FIVE|SIX|SEVEN|EIGHT|NINE"]⟩,
  ⟨0xA8EA, "COMBINING DEVANAGARI LETTER ", ["A|U|KA|NA|PA|RA|VI"]⟩,
  ⟨0xA8F1, "COMBINING DEVANAGARI SIGN AVAGRAHA", [""]⟩,
  ⟨0xA8F2, "DEVANAGARI SIGN ", [
    "SPACING CANDRABINDU|CANDRABINDU VIRAMA|DOUBLE CANDRABINDU VIRAMA|CANDRABINDU TWO|CANDRABINDU THREE",
    "CANDRABINDU AVAGRAHA|PUSHPIKA"]⟩,
  ⟨0xA8F9, "DEVANAGARI ", ["GAP FILLER|CARET|HEADSTROKE|SIGN SIDDHAM|JAIN OM|LETTER AY|VOWEL SIGN AY"]⟩,
  ⟨0xA900, "KAYAH LI DIGIT ", ["ZERO|ONE|TWO|THREE|FOUR|FIVE|SIX|SEVEN|EIGHT|NINE"]⟩,
  ⟨0xA90A, "KAYAH LI LETTER ", [
    "KA|KHA|GA|NGA|SA|SHA|ZA|NYA|TA|HTA|NA|PA|PHA|MA|DA|BA|RA|YA|LA|WA|THA|HA|VA|CA|A|OE|I|OO"]⟩,
  ⟨0xA926, "KAYAH LI ", [
    "VOWEL UE|VOWEL E|VOWEL U|VOWEL EE|VOWEL O|TONE PLOPHU|TONE CALYA|TONE CALYA PLOPHU|SIGN CWI|SIGN SHYA"]⟩,
  ⟨0xA930, "REJANG LETTER ", ["KA|GA|NGA|TA|DA|NA|PA|BA|MA|CA|JA|NYA|SA|RA|LA|YA|WA|HA|MBA|NGGA|NDA|NYJA|A"]⟩,
  ⟨0xA947, "REJANG VOWEL SIGN ", ["I|U|E|AI|O|AU|EU|EA"]⟩,
  ⟨0xA94F, "REJANG CONSONANT SIGN ", ["NG|N|R|H"]⟩,
  ⟨0xA953, "REJANG VIRAMA", [""]⟩,
  ⟨0xA95F, "REJANG SECTION MARK", [""]⟩,
  ⟨0xA960, "HANGUL CHOSEONG TIKEUT-", ["MIEUM|PIEUP|SIOS|CIEUC"]⟩,
  ⟨0xA964, "HANGUL CHOSEONG RIEUL-", [
    "KIYEOK|SSANGKIYEOK|TIKEUT|SSANGTIKEUT|MIEUM|PIEUP|SSANGPIEUP|KAPYEOUNPIEUP|SIOS|CIEUC|KHIEUKH"]⟩,
  ⟨0xA96F, "HANGUL CHOSEONG ", [
    "MIEUM-KIYEOK|MIEUM-TIKEUT|MIEUM-SIOS|PIEUP-SIOS-THIEUTH|PIEUP-KHIEUKH|PIEUP-HIEUH|SSANGSIOS-PIEUP|IEUNG-RIEUL",
    "IEUNG-HIEUH|SSANGCIEUC-HIEUH|SSANGTHIEUTH|PHIEUPH-HIEUH|HIEUH-SIOS|SSANGYEORINHIEUH"]⟩,
  ⟨0xA980, "JAVANESE SIGN ", ["PANYANGGA|CECAK|LAYAR|WIGNYAN"]⟩,
  ⟨0xA984, "JAVANESE LETTER ", [
    "A|I KAWI|I|II|U|PA CEREK|NGA LELET|NGA LELET RASWADI|E|AI|O|KA|KA SASAK|KA MURDA|GA|GA MURDA|NGA|CA|CA MURDA",
    "JA|NYA MURDA|JA MAHAPRANA|NYA|TTA|TTA MAHAPRANA|DDA|DDA MAHAPRANA|NA MURDA|TA|TA MURDA|DA|DA MAHAPRANA|NA|PA",
    "PA MURDA|BA|BA MURDA|MA|YA|RA|RA AGUNG|LA|WA|SA MURDA|SA MAHAPRANA|SA|HA"]⟩,
  ⟨0xA9B3, "JAVANESE SIGN CECAK TELU", [""]⟩,
  ⟨0xA9B4, "JAVANESE VOWEL SIGN ", ["TARUNG|TOLONG|WULU|WULU MELIK|SUKU|SUKU MENDUT|TALING|DIRGA MURE|PEPET"]⟩,
  ⟨0xA9BD, "JAVANESE CONSONANT SIGN ", ["KERET|PENGKAL|CAKRA"]⟩,
  ⟨0xA9C0, "JAVANESE ", [
    "PANGKON|LEFT RERENGGAN|RIGHT RERENGGAN|PADA ANDAP|PADA MADYA|PADA LUHUR|PADA WINDU|PADA PANGKAT|PADA LINGSA",
    "PADA LUNGSI|PADA ADEG|PADA ADEG ADEG|PADA PISELEH|TURNED PADA PISELEH"]⟩,
  ⟨0xA9CF, "JAVANESE PANGRANGKEP", [""]⟩,
  ⟨0xA9D0, "JAVANESE DIGIT ", ["ZERO|ONE|TWO|THREE|FOUR|FIVE|SIX|SEVEN|EIGHT|NINE"]⟩,
  ⟨0xA9DE, "JAVANESE PADA ", ["TIRTA TUMETES|ISEN-ISEN"]⟩,
  ⟨0xA9E0, "MYANMAR LETTER SHAN ", ["GHA|CHA|JHA|NNA|BHA"]⟩,
  ⟨0xA9E5, "MYANMAR ", ["SIGN SHAN SAW|MODIFIER LETTER SHAN REDUPLICATION"]⟩,
  ⟨0xA9E7, "MYANMAR LETTER TAI LAING ", ["NYA|FA|GA|GHA|JA|JHA|DDA|DDHA|NNA"]⟩,
  ⟨0xA9F0, "MYANMAR TAI LAING DIGIT ", ["ZERO|ONE|TWO|THREE|FOUR|FIVE|SIX|SEVEN|EIGHT|NINE"]⟩,
  ⟨0xA9FA, "MYANMAR LETTER TAI LAING ", ["LLA|DA|DHA|BA|BHA"]⟩,
  ⟨0xAA00, "CHAM LETTER ", [
    "A|I|U|E|AI|O|KA|KHA|GA|GHA|NGUE|NGA|CHA|CHHA|JA|JHA|NHUE|NHA|NHJA|TA|THA|DA|DHA|NUE|NA|DDA|PA|PPA|PHA|BA|BHA",
    "MUE|MA|BBA|YA|RA|LA|VA|SSA|SA|HA"]⟩,
  ⟨0xAA29, "CHAM VOWEL SIGN ", ["AA|I|II|EI|U|OE|O|AI|AU|UE"]⟩,
  ⟨0xAA33, "CHAM CONSONANT SIGN ", ["YA|RA|LA|WA"]⟩,
  ⟨0xAA40, "CHAM LETTER FINAL ", ["K|G|NG"]⟩,
  ⟨0xAA43, "CHAM CONSONANT SIGN FINAL NG", [""]⟩,
  ⟨0xAA44, "CHAM LETTER FINAL ", ["CH|T|N|P|Y|R|L|SS"]⟩,
  ⟨0xAA4C, "CHAM CONSONANT SIGN FINAL ", ["M|H"]⟩,
  ⟨0xAA50, "CHAM DIGIT ", ["ZERO|ONE|TWO|THREE|FOUR|FIVE|SIX|SEVEN|EIGHT|NINE"]⟩,
  ⟨0xAA5C, "CHAM PUNCTUATION ", ["SPIRAL|DANDA|DOUBLE DANDA|TRIPLE DANDA"]⟩,
  ⟨0xAA60, "MYANMAR LETTER KHAMTI ", ["GA|CA|CHA|JA|JHA|NYA|TTA|TTHA|DDA|DDHA|DHA|NA|SA|HA|HHA|FA"]⟩,
  ⟨0xAA70, "MYANMAR ", [
    "MODIFIER LETTER KHAMTI REDUPLICATION|LETTER KHAMTI XA|LETTER KHAMTI ZA|LETTER KHAMTI RA|LOGOGRAM KHAMTI OAY",
    "LOGOGRAM KHAMTI QN|LOGOGRAM KHAMTI HM|SYMBOL AITON EXCLAMATION|SYMBOL AITON ONE|SYMBOL AITON TWO",
    "LETTER AITON RA|SIGN PAO KAREN TONE|SIGN TAI LAING TONE-2|SIGN TAI LAING TONE-5|LETTER SHWE PALAUNG CHA",
    "LETTER SHWE PALAUNG SHA"]⟩,
  ⟨0xAA80, "TAI VIET LETTER ", [
    "LOW KO|HIGH KO|LOW KHO|HIGH KHO|LOW KHHO|HIGH KHHO|LOW GO|HIGH GO|LOW NGO|HIGH NGO|LOW CO|HIGH CO|LOW CHO",
    "HIGH CHO|LOW SO|HIGH SO|LOW NYO|HIGH NYO|LOW DO|HIGH DO|LOW TO|HIGH TO|LOW THO|HIGH THO|LOW NO|HIGH NO|LOW BO",
    "HIGH BO|LOW PO|HIGH PO|LOW PHO|HIGH PHO|LOW FO|HIGH FO|LOW MO|HIGH MO|LOW YO|HIGH YO|LOW RO|HIGH RO|LOW LO",
    "HIGH LO|LOW VO|HIGH VO|LOW HO|HIGH HO|LOW O|HIGH O"]⟩,
  ⟨0xAAB0, "TAI VIET ", ["MAI KANG|VOWEL AA|VOWEL I|VOWEL UE|VOWEL U|VOWEL E|VOWEL O|MAI KHIT"]⟩,
  ⟨0xAAB8, "TAI VIET VOWEL ", ["IA|UEA|UA|AUE|AY|AN|AM"]⟩,
  ⟨0xAABF, "TAI VIET TONE MAI ", ["EK|NUENG|THO|SONG"]⟩,
  ⟨0xAADB, "TAI VIET SYMBOL ", ["KON|NUENG|SAM|HO HOI|KOI KOI"]⟩,
  ⟨0xAAE0, "MEETEI MAYEK LETTER ", ["E|O|CHA|NYA|TTA|TTHA|DDA|DDHA|NNA|SHA|SSA"]⟩,
  ⟨0xAAEB, "MEETEI MAYEK VOWEL SIGN ", ["II|UU|AAI|AU|AAU"]⟩,
  ⟨0xAAF0, "MEETEI MAYEK ", [
    "CHEIKHAN|AHANG KHUDAM|ANJI|SYLLABLE REPETITION MARK|WORD REPETITION MARK|VOWEL SIGN VISARGA|VIRAMA"]⟩,
  ⟨0xAB01, "ETHIOPIC SYLLABLE ", ["TTHU|TTHI|TTHAA|TTHEE|TTHE|TTHO"]⟩,
  ⟨0xAB09, "ETHIOPIC SYLLABLE ", ["DDHU|DDHI|DDHAA|DDHEE|DDHE|DDHO"]⟩,
  ⟨0xAB11, "ETHIOPIC SYLLABLE ", ["DZU|DZI|DZAA|DZEE|DZE|DZO"]⟩,
  ⟨0xAB20, "ETHIOPIC SYLLABLE ", ["CCHHA|CCHHU|CCHHI|CCHHAA|CCHHEE|CCHHE|CCHHO"]⟩,
  ⟨0xAB28, "ETHIOPIC SYLLABLE ", ["BBA|BBU|BBI|BBAA|BBEE|BBE|BBO"]⟩,
  ⟨0xAB30, "LATIN SMALL LETTER ", [
    "BARRED ALPHA|A REVERSED-SCHWA|BLACKLETTER E|BARRED E|E WITH FLOURISH|LENIS F|SCRIPT G WITH CROSSED-TAIL",
    "L WITH INVERTED LAZY S|L WITH DOUBLE MIDDLE TILDE|L WITH MIDDLE RING|M WITH CROSSED-TAIL|N WITH CROSSED-TAIL",
    "ENG WITH CROSSED-TAIL|BLACKLETTER O|BLACKLETTER O WITH STROKE|OPEN O WITH STROKE|INVERTED OE",
    "TURNED OE WITH STROKE|TURNED OE WITH HORIZONTAL STROKE|TURNED O OPEN-O|TURNED O OPEN-O WITH STROKE|STIRRUP R"]⟩,
  ⟨0xAB46, "LATIN LETTER SMALL CAPITAL R WITH RIGHT LEG", [""]⟩,
  ⟨0xAB47, "LATIN SMALL LETTER ", [
    "R WITHOUT HANDLE|DOUBLE R|R WITH CROSSED-TAIL|DOUBLE R WITH CROSSED-TAIL|SCRIPT R|SCRIPT R WITH RING",
    "BASELINE ESH|U WITH SHORT RIGHT LEG|U BAR WITH SHORT RIGHT LEG|UI|TURNED UI|U WITH LEFT HOOK|CHI",
    "CHI WITH LOW RIGHT RING|CHI WITH LOW LEFT SERIF|X WITH LOW RIGHT RING|X WITH LONG LEFT LEG",
    "X WITH LONG LEFT LEG AND LOW RIGHT RING|X WITH LONG LEFT LEG WITH SERIF|Y WITH SHORT RIGHT LEG"]⟩,
  ⟨0xAB5B, "MODIFIER BREVE WITH INVERTED BREVE", [""]⟩,
  ⟨0xAB5C, "MODIFIER LETTER SMALL ", ["HENG|L WITH INVERTED LAZY S|L WITH MIDDLE TILDE|U WITH LEFT HOOK"]⟩,
  ⟨0xAB60, "LATIN SMALL LETTER ", ["SAKHA YAT|IOTIFIED E|OPEN OE|UO|INVERTED ALPHA"]⟩,
  ⟨0xAB65, "GREEK LETTER SMALL CAPITAL OMEGA", [""]⟩,
  ⟨0xAB66, "LATIN SMALL LETTER ", [
    "DZ DIGRAPH WITH RETROFLEX HOOK|TS DIGRAPH WITH RETROFLEX HOOK|TURNED R WITH MIDDLE TILDE"]⟩,
  ⟨0xAB69, "MODIFIER LETTER ", ["SMALL TURNED W|LEFT TACK|RIGHT TACK"]⟩,
  ⟨0xAB70, "CHEROKEE SMALL LETTER ", [
    "A|E|I|O|U|V|GA|KA|GE|GI|GO|GU|GV|HA|HE|HI|HO|HU|HV|LA|LE|LI|LO|LU|LV|MA|ME|MI|MO|MU|NA|HNA|NAH|NE|NI|NO|NU|NV",
    "QUA|QUE|QUI|QUO|QUU|QUV|SA|S|SE|SI|SO|SU|SV|DA|TA|DE|TE|DI|TI|DO|DU|DV|DLA|TLA|TLE|TLI|TLO|TLU|TLV|TSA|TSE|TSI",
    "TSO|TSU|TSV|WA|WE|WI|WO|WU|WV|YA"]⟩,
  ⟨0xABC0, "MEETEI MAYEK LETTER ", [
    "KOK|SAM|LAI|MIT|PA|NA|CHIL|TIL|KHOU|NGOU|THOU|WAI|YANG|HUK|UN|I|PHAM|ATIYA|GOK|JHAM|RAI|BA|JIL|DIL|GHOU|DHOU",
    "BHAM|KOK LONSUM|LAI LONSUM|MIT LONSUM|PA LONSUM|NA LONSUM|TIL LONSUM|NGOU LONSUM|I LONSUM"]⟩,
  ⟨0xABE3, "MEETEI MAYEK VOWEL SIGN ", ["ONAP|INAP|ANAP|YENAP|SOUNAP|UNAP|CHEINAP|NUNG"]⟩,
  ⟨0xABEB, "MEETEI MAYEK ", ["CHEIKHEI|LUM IYEK|APUN IYEK"]⟩,
  ⟨0xABF0, "MEETEI MAYEK DIGIT ", ["ZERO|ONE|TWO|THREE|FOUR|FIVE|SIX|SEVEN|EIGHT|NINE"]⟩,
  ⟨0xD7B0, "HANGUL JUNGSEONG ", [
    "O-YEO|O-O-I|YO-A|YO-AE|YO-EO|U-YEO|U-I-I|YU-AE|YU-O|EU-A|EU-EO|EU-E|EU-O|I-YA-O|I-YAE|I-YEO|I-YE|I-O-I|I-YO",
    "I-YU|I-I|ARAEA-A|ARAEA-E"]⟩,
  ⟨0xD7CB, "HANGUL JONGSEONG ", [
    "NIEUN-RIEUL|NIEUN-CHIEUCH|SSANGTIKEUT|SSANGTIKEUT-PIEUP|TIKEUT-PIEUP|TIKEUT-SIOS|TIKEUT-SIOS-KIYEOK",
    "TIKEUT-CIEUC|TIKEUT-CHIEUCH|TIKEUT-THIEUTH|RIEUL-SSANGKIYEOK|RIEUL-KIYEOK-HIEUH|SSANGRIEUL-KHIEUKH",
    "RIEUL-MIEUM-HIEUH|RIEUL-PIEUP-TIKEUT|RIEUL-PIEUP-PHIEUPH|RIEUL-YESIEUNG|RIEUL-YEORINHIEUH-HIEUH|KAPYEOUNRIEUL",
    "MIEUM-NIEUN|MIEUM-SSANGNIEUN|SSANGMIEUM|MIEUM-PIEUP-SIOS|MIEUM-CIEUC|PIEUP-TIKEUT|PIEUP-RIEUL-PHIEUPH",
    "PIEUP-MIEUM|SSANGPIEUP|PIEUP-SIOS-TIKEUT|PIEUP-CIEUC|PIEUP-CHIEUCH|SIOS-MIEUM|SIOS-KAPYEOUNPIEUP",
    "SSANGSIOS-KIYEOK|SSANGSIOS-TIKEUT|SIOS-PANSIOS|SIOS-CIEUC|SIOS-CHIEUCH|SIOS-THIEUTH|SIOS-HIEUH|PANSIOS-PIEUP",
    "PANSIOS-KAPYEOUNPIEUP|YESIEUNG-MIEUM|YESIEUNG-HIEUH|CIEUC-PIEUP|CIEUC-SSANGPIEUP|SSANGCIEUC|PHIEUPH-SIOS",
    "PHIEUPH-THIEUTH"]⟩]

/-- From U+FB00 to U+FFFF. -/
def fromFB00 : List NameRun := [
  ⟨0xFB00, "LATIN SMALL LIGATURE ", ["FF|FI|FL|FFI|FFL|LONG S T|ST"]⟩,
  ⟨0xFB13, "ARMENIAN SMALL LIGATURE ", ["MEN NOW|MEN ECH|MEN INI|VEW NOW|MEN XEH"]⟩,
  ⟨0xFB1D, "HEBREW ", ["LETTER YOD WITH HIRIQ|POINT JUDEO-SPANISH VARIKA|LIGATURE YIDDISH YOD YOD PATAH"]⟩,
  ⟨0xFB20, "HEBREW LETTER ", [
    "ALTERNATIVE AYIN|WIDE ALEF|WIDE DALET|WIDE HE|WIDE KAF|WIDE LAMED|WIDE FINAL MEM|WIDE RESH|WIDE TAV",
    "ALTERNATIVE PLUS SIGN|SHIN WITH SHIN DOT|SHIN WITH SIN DOT|SHIN WITH DAGESH AND SHIN DOT",
    "SHIN WITH DAGESH AND SIN DOT|ALEF WITH PATAH|ALEF WITH QAMATS|ALEF WITH MAPIQ|BET WITH DAGESH",
    "GIMEL WITH DAGESH|DALET WITH DAGESH|HE WITH MAPIQ|VAV WITH DAGESH|ZAYIN WITH DAGESH"]⟩,
  ⟨0xFB38, "HEBREW LETTER ", [
    "TET WITH DAGESH|YOD WITH DAGESH|FINAL KAF WITH DAGESH|KAF WITH DAGESH|LAMED WITH DAGESH"]⟩,
  ⟨0xFB3E, "HEBREW LETTER MEM WITH DAGESH", [""]⟩,
  ⟨0xFB40, "HEBREW LETTER ", ["NUN WITH DAGESH|SAMEKH WITH DAGESH"]⟩,
  ⟨0xFB43, "HEBREW LETTER ", ["FINAL PE WITH DAGESH|PE WITH DAGESH"]⟩,
  ⟨0xFB46, "HEBREW LETTER ", [
    "TSADI WITH DAGESH|QOF WITH DAGESH|RESH WITH DAGESH|SHIN WITH DAGESH|TAV WITH DAGESH|VAV WITH HOLAM",
    "BET WITH RAFE|KAF WITH RAFE|PE WITH RAFE"]⟩,
  ⟨0xFB4F, "HEBREW LIGATURE ALEF LAMED", [""]⟩,
  ⟨0xFB50, "ARABIC LETTER ", [
    "ALEF WASLA ISOLATED FORM|ALEF WASLA FINAL FORM|BEEH ISOLATED FORM|BEEH FINAL FORM|BEEH INITIAL FORM",
    "BEEH MEDIAL FORM|PEH ISOLATED FORM|PEH FINAL FORM|PEH INITIAL FORM|PEH MEDIAL FORM|BEHEH ISOLATED FORM",
    "BEHEH FINAL FORM|BEHEH INITIAL FORM|BEHEH MEDIAL FORM|TTEHEH ISOLATED FORM|TTEHEH FINAL FORM",
    "TTEHEH INITIAL FORM|TTEHEH MEDIAL FORM|TEHEH ISOLATED FORM|TEHEH FINAL FORM|TEHEH INITIAL FORM",
    "TEHEH MEDIAL FORM|TTEH ISOLATED FORM|TTEH FINAL FORM|TTEH INITIAL FORM|TTEH MEDIAL FORM|VEH ISOLATED FORM",
    "VEH FINAL FORM|VEH INITIAL FORM|VEH MEDIAL FORM|PEHEH ISOLATED FORM|PEHEH FINAL FORM|PEHEH INITIAL FORM",
    "PEHEH MEDIAL FORM|DYEH ISOLATED FORM|DYEH FINAL FORM|DYEH INITIAL FORM|DYEH MEDIAL FORM|NYEH ISOLATED FORM",
    "NYEH FINAL FORM|NYEH INITIAL FORM|NYEH MEDIAL FORM|TCHEH ISOLATED FORM|TCHEH FINAL FORM|TCHEH INITIAL FORM",
    "TCHEH MEDIAL FORM|TCHEHEH ISOLATED FORM|TCHEHEH FINAL FORM|TCHEHEH INITIAL FORM|TCHEHEH MEDIAL FORM",
    "DDAHAL ISOLATED FORM|DDAHAL FINAL FORM|DAHAL ISOLATED FORM|DAHAL FINAL FORM|DUL ISOLATED FORM|DUL FINAL FORM",
    "DDAL ISOLATED FORM|DDAL FINAL FORM|JEH ISOLATED FORM|JEH FINAL FORM|RREH ISOLATED FORM|RREH FINAL FORM",
    "KEHEH ISOLATED FORM|KEHEH FINAL FORM|KEHEH INITIAL FORM|KEHEH MEDIAL FORM|GAF ISOLATED FORM|GAF FINAL FORM",
    "GAF INITIAL FORM|GAF MEDIAL FORM|GUEH ISOLATED FORM|GUEH FINAL FORM|GUEH INITIAL FORM|GUEH MEDIAL FORM",
    "NGOEH ISOLATED FORM|NGOEH FINAL FORM|NGOEH INITIAL FORM|NGOEH MEDIAL FORM|NOON GHUNNA ISOLATED FORM",
    "NOON GHUNNA FINAL FORM|RNOON ISOLATED FORM|RNOON FINAL FORM|RNOON INITIAL FORM|RNOON MEDIAL FORM",
    "HEH WITH YEH ABOVE ISOLATED FORM|HEH WITH YEH ABOVE FINAL FORM|HEH GOAL ISOLATED FORM|HEH GOAL FINAL FORM",
    "HEH GOAL INITIAL FORM|HEH GOAL MEDIAL FORM"]⟩,
  ⟨0xFBAA, "ARABIC LETTER HEH DOACHASHMEE ", ["ISOLATED FORM|FINAL FORM|INITIAL FORM|MEDIAL FORM"]⟩,
  ⟨0xFBAE, "ARABIC LETTER YEH BARREE ", [
    "ISOLATED FORM|FINAL FORM|WITH HAMZA ABOVE ISOLATED FORM|WITH HAMZA ABOVE FINAL FORM"]⟩,
  ⟨0xFBB2, "ARABIC SYMBOL ", [
    "DOT ABOVE|DOT BELOW|TWO DOTS ABOVE|TWO DOTS BELOW|THREE DOTS ABOVE|THREE DOTS BELOW",
    "THREE DOTS POINTING DOWNWARDS ABOVE|THREE DOTS POINTING DOWNWARDS BELOW|FOUR DOTS ABOVE|FOUR DOTS BELOW",
    "DOUBLE VERTICAL BAR BELOW|TWO DOTS VERTICALLY ABOVE|TWO DOTS VERTICALLY BELOW|RING|SMALL TAH ABOVE",
    "SMALL TAH BELOW|WASLA ABOVE"]⟩,
  ⟨0xFBD3, "ARABIC LETTER ", [
    "NG ISOLATED FORM|NG FINAL FORM|NG INITIAL FORM|NG MEDIAL FORM|U ISOLATED FORM|U FINAL FORM|OE ISOLATED FORM",
    "OE FINAL FORM|YU ISOLATED FORM|YU FINAL FORM|U WITH HAMZA ABOVE ISOLATED FORM|VE ISOLATED FORM|VE FINAL FORM",
    "KIRGHIZ OE ISOLATED FORM|KIRGHIZ OE FINAL FORM|KIRGHIZ YU ISOLATED FORM|KIRGHIZ YU FINAL FORM|E ISOLATED FORM",
    "E FINAL FORM|E INITIAL FORM|E MEDIAL FORM"]⟩,
  ⟨0xFBE8, "ARABIC LETTER UIGHUR KAZAKH KIRGHIZ ALEF MAKSURA ", ["INITIAL FORM|MEDIAL FORM"]⟩,
  ⟨0xFBEA, "ARABIC LIGATURE YEH WITH HAMZA ABOVE WITH ", [
    "ALEF ISOLATED FORM|ALEF FINAL FORM|AE ISOLATED FORM|AE FINAL FORM|WAW ISOLATED FORM|WAW FINAL FORM",
    "U ISOLATED FORM|U FINAL FORM|OE ISOLATED FORM|OE FINAL FORM|YU ISOLATED FORM|YU FINAL FORM|E ISOLATED FORM",
    "E FINAL FORM|E INITIAL FORM"]⟩,
  ⟨0xFBF9, "ARABIC LIGATURE UIGHUR KIRGHIZ YEH WITH HAMZA ABOVE WITH ALEF MAKSURA ", [
    "ISOLATED FORM|FINAL FORM|INITIAL FORM"]⟩,
  ⟨0xFBFC, "ARABIC LETTER FARSI YEH ", ["ISOLATED FORM|FINAL FORM|INITIAL FORM|MEDIAL FORM"]⟩,
  ⟨0xFC00, "ARABIC LIGATURE YEH WITH HAMZA ABOVE WITH ", [
    "JEEM ISOLATED FORM|HAH ISOLATED FORM|MEEM ISOLATED FORM|ALEF MAKSURA ISOLATED FORM|YEH ISOLATED FORM"]⟩,
  ⟨0xFC05, "ARABIC LIGATURE BEH WITH ", [
    "JEEM ISOLATED FORM|HAH ISOLATED FORM|KHAH ISOLATED FORM|MEEM ISOLATED FORM|ALEF MAKSURA ISOLATED FORM",
    "YEH ISOLATED FORM"]⟩,
  ⟨0xFC0B, "ARABIC LIGATURE TEH WITH ", [
    "JEEM ISOLATED FORM|HAH ISOLATED FORM|KHAH ISOLATED FORM|MEEM ISOLATED FORM|ALEF MAKSURA ISOLATED FORM",
    "YEH ISOLATED FORM"]⟩,
  ⟨0xFC11, "ARABIC LIGATURE ", [
    "THEH WITH JEEM ISOLATED FORM|THEH WITH MEEM ISOLATED FORM|THEH WITH ALEF MAKSURA ISOLATED FORM",
    "THEH WITH YEH ISOLATED FORM|JEEM WITH HAH ISOLATED FORM|JEEM WITH MEEM ISOLATED FORM",
    "HAH WITH JEEM ISOLATED FORM|HAH WITH MEEM ISOLATED FORM|KHAH WITH JEEM ISOLATED FORM",
    "KHAH WITH HAH ISOLATED FORM|KHAH WITH MEEM ISOLATED FORM|SEEN WITH JEEM ISOLATED FORM",
    "SEEN WITH HAH ISOLATED FORM|SEEN WITH KHAH ISOLATED FORM|SEEN WITH MEEM ISOLATED FORM",
    "SAD WITH HAH ISOLATED FORM|SAD WITH MEEM ISOLATED FORM|DAD WITH JEEM ISOLATED FORM|DAD WITH HAH ISOLATED FORM",
    "DAD WITH KHAH ISOLATED FORM|DAD WITH MEEM ISOLATED FORM|TAH WITH HAH ISOLATED FORM|TAH WITH MEEM ISOLATED FORM",
    "ZAH WITH MEEM ISOLATED FORM|AIN WITH JEEM ISOLATED FORM|AIN WITH MEEM ISOLATED FORM",
    "GHAIN WITH JEEM ISOLATED FORM|GHAIN WITH MEEM ISOLATED FORM"]⟩,
  ⟨0xFC2D, "ARABIC LIGATURE FEH WITH ", [
    "JEEM ISOLATED FORM|HAH ISOLATED FORM|KHAH ISOLATED FORM|MEEM ISOLATED FORM|ALEF MAKSURA ISOLATED FORM",
    "YEH ISOLATED FORM"]⟩,
  ⟨0xFC33, "ARABIC LIGATURE QAF WITH ", [
    "HAH ISOLATED FORM|MEEM ISOLATED FORM|ALEF MAKSURA ISOLATED FORM|YEH ISOLATED FORM"]⟩,
  ⟨0xFC37, "ARABIC LIGATURE KAF WITH ", [
    "ALEF ISOLATED FORM|JEEM ISOLATED FORM|HAH ISOLATED FORM|KHAH ISOLATED FORM|LAM ISOLATED FORM",
    "MEEM ISOLATED FORM|ALEF MAKSURA ISOLATED FORM|YEH ISOLATED FORM"]⟩,
  ⟨0xFC3F, "ARABIC LIGATURE LAM WITH ", [
    "JEEM ISOLATED FORM|HAH ISOLATED FORM|KHAH ISOLATED FORM|MEEM ISOLATED FORM|ALEF MAKSURA ISOLATED FORM",
    "YEH ISOLATED FORM"]⟩,
  ⟨0xFC45, "ARABIC LIGATURE MEEM WITH ", [
    "JEEM ISOLATED FORM|HAH ISOLATED FORM|KHAH ISOLATED FORM|MEEM ISOLATED FORM|ALEF MAKSURA ISOLATED FORM",
    "YEH ISOLATED FORM"]⟩,
  ⟨0xFC4B, "ARABIC LIGATURE NOON WITH ", [
    "JEEM ISOLATED FORM|HAH ISOLATED FORM|KHAH ISOLATED FORM|MEEM ISOLATED FORM|ALEF MAKSURA ISOLATED FORM",
    "YEH ISOLATED FORM"]⟩,
  ⟨0xFC51, "ARABIC LIGATURE HEH WITH ", [
    "JEEM ISOLATED FORM|MEEM ISOLATED FORM|ALEF MAKSURA ISOLATED FORM|YEH ISOLATED FORM"]⟩,
  ⟨0xFC55, "ARABIC LIGATURE YEH WITH ", [
    "JEEM ISOLATED FORM|HAH ISOLATED FORM|KHAH ISOLATED FORM|MEEM ISOLATED FORM|ALEF MAKSURA ISOLATED FORM",
    "YEH ISOLATED FORM"]⟩,
  ⟨0xFC5B, "ARABIC LIGATURE ", [
    "THAL WITH SUPERSCRIPT ALEF ISOLATED FORM|REH WITH SUPERSCRIPT ALEF ISOLATED FORM",
    "ALEF MAKSURA WITH SUPERSCRIPT ALEF ISOLATED FORM"]⟩,
  ⟨0xFC5E, "ARABIC LIGATURE SHADDA WITH ", [
    "DAMMATAN ISOLATED FORM|KASRATAN ISOLATED FORM|FATHA ISOLATED FORM|DAMMA ISOLATED FORM|KASRA ISOLATED FORM",
    "SUPERSCRIPT ALEF ISOLATED FORM"]⟩,
  ⟨0xFC64, "ARABIC LIGATURE YEH WITH HAMZA ABOVE WITH ", [
    "REH FINAL FORM|ZAIN FINAL FORM|MEEM FINAL FORM|NOON FINAL FORM|ALEF MAKSURA FINAL FORM|YEH FINAL FORM"]⟩,
  ⟨0xFC6A, "ARABIC LIGATURE BEH WITH ", [
    "REH FINAL FORM|ZAIN FINAL FORM|MEEM FINAL FORM|NOON FINAL FORM|ALEF MAKSURA FINAL FORM|YEH FINAL FORM"]⟩,
  ⟨0xFC70, "ARABIC LIGATURE TEH WITH ", [
    "REH FINAL FORM|ZAIN FINAL FORM|MEEM FINAL FORM|NOON FINAL FORM|ALEF MAKSURA FINAL FORM|YEH FINAL FORM"]⟩,
  ⟨0xFC76, "ARABIC LIGATURE THEH WITH ", [
    "REH FINAL FORM|ZAIN FINAL FORM|MEEM FINAL FORM|NOON FINAL FORM|ALEF MAKSURA FINAL FORM|YEH FINAL FORM"]⟩,
  ⟨0xFC7C, "ARABIC LIGATURE ", [
    "FEH WITH ALEF MAKSURA FINAL FORM|FEH WITH YEH FINAL FORM|QAF WITH ALEF MAKSURA FINAL FORM",
    "QAF WITH YEH FINAL FORM|KAF WITH ALEF FINAL FORM|KAF WITH LAM FINAL FORM|KAF WITH MEEM FINAL FORM",
    "KAF WITH ALEF MAKSURA FINAL FORM|KAF WITH YEH FINAL FORM|LAM WITH MEEM FINAL FORM",
    "LAM WITH ALEF MAKSURA FINAL FORM|LAM WITH YEH FINAL FORM|MEEM WITH ALEF FINAL FORM|MEEM WITH MEEM FINAL FORM",
    "NOON WITH REH FINAL FORM|NOON WITH ZAIN FINAL FORM|NOON WITH MEEM FINAL FORM|NOON WITH NOON FINAL FORM",
    "NOON WITH ALEF MAKSURA FINAL FORM|NOON WITH YEH FINAL FORM|ALEF MAKSURA WITH SUPERSCRIPT ALEF FINAL FORM"]⟩,
  ⟨0xFC91, "ARABIC LIGATURE YEH WITH ", [
    "REH FINAL FORM|ZAIN FINAL FORM|MEEM FINAL FORM|NOON FINAL FORM|ALEF MAKSURA FINAL FORM|YEH FINAL FORM"]⟩,
  ⟨0xFC97, "ARABIC LIGATURE YEH WITH HAMZA ABOVE WITH ", [
    "JEEM INITIAL FORM|HAH INITIAL FORM|KHAH INITIAL FORM|MEEM INITIAL FORM|HEH INITIAL FORM"]⟩,
  ⟨0xFC9C, "ARABIC LIGATURE BEH WITH ", [
    "JEEM INITIAL FORM|HAH INITIAL FORM|KHAH INITIAL FORM|MEEM INITIAL FORM|HEH INITIAL FORM"]⟩,
  ⟨0xFCA1, "ARABIC LIGATURE TEH WITH ", [
    "JEEM INITIAL FORM|HAH INITIAL FORM|KHAH INITIAL FORM|MEEM INITIAL FORM|HEH INITIAL FORM"]⟩,
  ⟨0xFCA6, "ARABIC LIGATURE ", [
    "THEH WITH MEEM INITIAL FORM|JEEM WITH HAH INITIAL FORM|JEEM WITH MEEM INITIAL FORM|HAH WITH JEEM INITIAL FORM",
    "HAH WITH MEEM INITIAL FORM|KHAH WITH JEEM INITIAL FORM|KHAH WITH MEEM INITIAL FORM|SEEN WITH JEEM INITIAL FORM",
    "SEEN WITH HAH INITIAL FORM|SEEN WITH KHAH INITIAL FORM|SEEN WITH MEEM INITIAL FORM|SAD WITH HAH INITIAL FORM",
    "SAD WITH KHAH INITIAL FORM|SAD WITH MEEM INITIAL FORM|DAD WITH JEEM INITIAL FORM|DAD WITH HAH INITIAL FORM",
    "DAD WITH KHAH INITIAL FORM|DAD WITH MEEM INITIAL FORM|TAH WITH HAH INITIAL FORM|ZAH WITH MEEM INITIAL FORM",
    "AIN WITH JEEM INITIAL FORM|AIN WITH MEEM INITIAL FORM|GHAIN WITH JEEM INITIAL FORM",
    "GHAIN WITH MEEM INITIAL FORM|FEH WITH JEEM INITIAL FORM|FEH WITH HAH INITIAL FORM|FEH WITH KHAH INITIAL FORM",
    "FEH WITH MEEM INITIAL FORM|QAF WITH HAH INITIAL FORM|QAF WITH MEEM INITIAL FORM|KAF WITH JEEM INITIAL FORM",
    "KAF WITH HAH INITIAL FORM|KAF WITH KHAH INITIAL FORM|KAF WITH LAM INITIAL FORM|KAF WITH MEEM INITIAL FORM",
    "LAM WITH JEEM INITIAL FORM|LAM WITH HAH INITIAL FORM|LAM WITH KHAH INITIAL FORM|LAM WITH MEEM INITIAL FORM",
    "LAM WITH HEH INITIAL FORM|MEEM WITH JEEM INITIAL FORM|MEEM WITH HAH INITIAL FORM|MEEM WITH KHAH INITIAL FORM",
    "MEEM WITH MEEM INITIAL FORM|NOON WITH JEEM INITIAL FORM|NOON WITH HAH INITIAL FORM|NOON WITH KHAH INITIAL FORM",
    "NOON WITH MEEM INITIAL FORM|NOON WITH HEH INITIAL FORM|HEH WITH JEEM INITIAL FORM|HEH WITH MEEM INITIAL FORM",
    "HEH WITH SUPERSCRIPT ALEF INITIAL FORM|YEH WITH JEEM INITIAL FORM|YEH WITH HAH INITIAL FORM",
    "YEH WITH KHAH INITIAL FORM|YEH WITH MEEM INITIAL FORM|YEH WITH HEH INITIAL FORM",
    "YEH WITH HAMZA ABOVE WITH MEEM MEDIAL FORM|YEH WITH HAMZA ABOVE WITH HEH MEDIAL FORM|BEH WITH MEEM MEDIAL FORM",
    "BEH WITH HEH MEDIAL FORM|TEH WITH MEEM MEDIAL FORM|TEH WITH HEH MEDIAL FORM|THEH WITH MEEM MEDIAL FORM",
    "THEH WITH HEH MEDIAL FORM|SEEN WITH MEEM MEDIAL FORM|SEEN WITH HEH MEDIAL FORM|SHEEN WITH MEEM MEDIAL FORM",
    "SHEEN WITH HEH MEDIAL FORM|KAF WITH LAM MEDIAL FORM|KAF WITH MEEM MEDIAL FORM|LAM WITH MEEM MEDIAL FORM",
    "NOON WITH MEEM MEDIAL FORM|NOON WITH HEH MEDIAL FORM|YEH WITH MEEM MEDIAL FORM|YEH WITH HEH MEDIAL FORM",
    "SHADDA WITH FATHA MEDIAL FORM|SHADDA WITH DAMMA MEDIAL FORM|SHADDA WITH KASRA MEDIAL FORM",
    "TAH WITH ALEF MAKSURA ISOLATED FORM|TAH WITH YEH ISOLATED FORM|AIN WITH ALEF MAKSURA ISOLATED FORM",
    "AIN WITH YEH ISOLATED FORM|GHAIN WITH ALEF MAKSURA ISOLATED FORM|GHAIN WITH YEH ISOLATED FORM",
    "SEEN WITH ALEF MAKSURA ISOLATED FORM|SEEN WITH YEH ISOLATED FORM|SHEEN WITH ALEF MAKSURA ISOLATED FORM",
    "SHEEN WITH YEH ISOLATED FORM|HAH WITH ALEF MAKSURA ISOLATED FORM|HAH WITH YEH ISOLATED FORM",
    "JEEM WITH ALEF MAKSURA ISOLATED FORM|JEEM WITH YEH ISOLATED FORM|KHAH WITH ALEF MAKSURA ISOLATED FORM",
    "KHAH WITH YEH ISOLATED FORM|SAD WITH ALEF MAKSURA ISOLATED FORM|SAD WITH YEH ISOLATED FORM",
    "DAD WITH ALEF MAKSURA ISOLATED FORM|DAD WITH YEH ISOLATED FORM|SHEEN WITH JEEM ISOLATED FORM",
    "SHEEN WITH HAH ISOLATED FORM|SHEEN WITH KHAH ISOLATED FORM|SHEEN WITH MEEM ISOLATED FORM",
    "SHEEN WITH REH ISOLATED FORM|SEEN WITH REH ISOLATED FORM|SAD WITH REH ISOLATED FORM|DAD WITH REH ISOLATED FORM",
    "TAH WITH ALEF MAKSURA FINAL FORM|TAH WITH YEH FINAL FORM|AIN WITH ALEF MAKSURA FINAL FORM",
    "AIN WITH YEH FINAL FORM|GHAIN WITH ALEF MAKSURA FINAL FORM|GHAIN WITH YEH FINAL FORM",
    "SEEN WITH ALEF MAKSURA FINAL FORM|SEEN WITH YEH FINAL FORM|SHEEN WITH ALEF MAKSURA FINAL FORM",
    "SHEEN WITH YEH FINAL FORM|HAH WITH ALEF MAKSURA FINAL FORM|HAH WITH YEH FINAL FORM",
    "JEEM WITH ALEF MAKSURA FINAL FORM|JEEM WITH YEH FINAL FORM|KHAH WITH ALEF MAKSURA FINAL FORM",
    "KHAH WITH YEH FINAL FORM|SAD WITH ALEF MAKSURA FINAL FORM|SAD WITH YEH FINAL FORM",
    "DAD WITH ALEF MAKSURA FINAL FORM|DAD WITH YEH FINAL FORM|SHEEN WITH JEEM FINAL FORM|SHEEN WITH HAH FINAL FORM",
    "SHEEN WITH KHAH FINAL FORM|SHEEN WITH MEEM FINAL FORM|SHEEN WITH REH FINAL FORM|SEEN WITH REH FINAL FORM",
    "SAD WITH REH FINAL FORM|DAD WITH REH FINAL FORM|SHEEN WITH JEEM INITIAL FORM|SHEEN WITH HAH INITIAL FORM",
    "SHEEN WITH KHAH INITIAL FORM|SHEEN WITH MEEM INITIAL FORM|SEEN WITH HEH INITIAL FORM",
    "SHEEN WITH HEH INITIAL FORM|TAH WITH MEEM INITIAL FORM|SEEN WITH JEEM MEDIAL FORM|SEEN WITH HAH MEDIAL FORM",
    "SEEN WITH KHAH MEDIAL FORM|SHEEN WITH JEEM MEDIAL FORM|SHEEN WITH HAH MEDIAL FORM|SHEEN WITH KHAH MEDIAL FORM",
    "TAH WITH MEEM MEDIAL FORM|ZAH WITH MEEM MEDIAL FORM|ALEF WITH FATHATAN FINAL FORM",
    "ALEF WITH FATHATAN ISOLATED FORM"]⟩,
  ⟨0xFD3E, "ORNATE ", ["LEFT PARENTHESIS|RIGHT PARENTHESIS"]⟩,
  ⟨0xFD40, "ARABIC LIGATURE ", [
    "RAHIMAHU ALLAAH|RADI ALLAAHU ANH|RADI ALLAAHU ANHAA|RADI ALLAAHU ANHUM|RADI ALLAAHU ANHUMAA",
    "RADI ALLAAHU ANHUNNA|SALLALLAAHU ALAYHI WA-AALIH|ALAYHI AS-SALAAM|ALAYHIM AS-SALAAM|ALAYHIMAA AS-SALAAM",
    "ALAYHI AS-SALAATU WAS-SALAAM|QUDDISA SIRRAH|SALLALLAHU ALAYHI WAAALIHEE WA-SALLAM|ALAYHAA AS-SALAAM",
    "TABAARAKA WA-TAAALAA|RAHIMAHUM ALLAAH|TEH WITH JEEM WITH MEEM INITIAL FORM|TEH WITH HAH WITH JEEM FINAL FORM",
    "TEH WITH HAH WITH JEEM INITIAL FORM|TEH WITH HAH WITH MEEM INITIAL FORM|TEH WITH KHAH WITH MEEM INITIAL FORM",
    "TEH WITH MEEM WITH JEEM INITIAL FORM|TEH WITH MEEM WITH HAH INITIAL FORM|TEH WITH MEEM WITH KHAH INITIAL FORM",
    "JEEM WITH MEEM WITH HAH FINAL FORM|JEEM WITH MEEM WITH HAH INITIAL FORM|HAH WITH MEEM WITH YEH FINAL FORM",
    "HAH WITH MEEM WITH ALEF MAKSURA FINAL FORM|SEEN WITH HAH WITH JEEM INITIAL FORM",
    "SEEN WITH JEEM WITH HAH INITIAL FORM|SEEN WITH JEEM WITH ALEF MAKSURA FINAL FORM"]⟩,
  ⟨0xFD5F, "ARABIC LIGATURE SEEN WITH MEEM WITH ", [
    "HAH FINAL FORM|HAH INITIAL FORM|JEEM INITIAL FORM|MEEM FINAL FORM|MEEM INITIAL FORM"]⟩,
  ⟨0xFD64, "ARABIC LIGATURE SAD WITH ", [
    "HAH WITH HAH FINAL FORM|HAH WITH HAH INITIAL FORM|MEEM WITH MEEM FINAL FORM"]⟩,
  ⟨0xFD67, "ARABIC LIGATURE SHEEN WITH ", [
    "HAH WITH MEEM FINAL FORM|HAH WITH MEEM INITIAL FORM|JEEM WITH YEH FINAL FORM|MEEM WITH KHAH FINAL FORM",
    "MEEM WITH KHAH INITIAL FORM|MEEM WITH MEEM FINAL FORM|MEEM WITH MEEM INITIAL FORM"]⟩,
  ⟨0xFD6E, "ARABIC LIGATURE DAD WITH ", [
    "HAH WITH ALEF MAKSURA FINAL FORM|KHAH WITH MEEM FINAL FORM|KHAH WITH MEEM INITIAL FORM"]⟩,
  ⟨0xFD71, "ARABIC LIGATURE TAH WITH MEEM WITH ", [
    "HAH FINAL FORM|HAH INITIAL FORM|MEEM INITIAL FORM|YEH FINAL FORM"]⟩,
  ⟨0xFD75, "ARABIC LIGATURE AIN WITH ", [
    "JEEM WITH MEEM FINAL FORM|MEEM WITH MEEM FINAL FORM|MEEM WITH MEEM INITIAL FORM",
    "MEEM WITH ALEF MAKSURA FINAL FORM"]⟩,
  ⟨0xFD79, "ARABIC LIGATURE GHAIN WITH MEEM WITH ", ["MEEM FINAL FORM|YEH FINAL FORM|ALEF MAKSURA FINAL FORM"]⟩,
  ⟨0xFD7C, "ARABIC LIGATURE FEH WITH KHAH WITH MEEM ", ["FINAL FORM|INITIAL FORM"]⟩,
  ⟨0xFD7E, "ARABIC LIGATURE QAF WITH MEEM WITH ", ["HAH FINAL FORM|MEEM FINAL FORM"]⟩,
  ⟨0xFD80, "ARABIC LIGATURE LAM WITH ", [
    "HAH WITH MEEM FINAL FORM|HAH WITH YEH FINAL FORM|HAH WITH ALEF MAKSURA FINAL FORM|JEEM WITH JEEM INITIAL FORM",
    "JEEM WITH JEEM FINAL FORM|KHAH WITH MEEM FINAL FORM|KHAH WITH MEEM INITIAL FORM|MEEM WITH HAH FINAL FORM",
    "MEEM WITH HAH INITIAL FORM"]⟩,
  ⟨0xFD89, "ARABIC LIGATURE MEEM WITH ", [
    "HAH WITH JEEM INITIAL FORM|HAH WITH MEEM INITIAL FORM|HAH WITH YEH FINAL FORM|JEEM WITH HAH INITIAL FORM",
    "JEEM WITH MEEM INITIAL FORM|KHAH WITH JEEM INITIAL FORM|KHAH WITH MEEM INITIAL FORM"]⟩,
  ⟨0xFD92, "ARABIC LIGATURE ", [
    "MEEM WITH JEEM WITH KHAH INITIAL FORM|HEH WITH MEEM WITH JEEM INITIAL FORM",
    "HEH WITH MEEM WITH MEEM INITIAL FORM|NOON WITH HAH WITH MEEM INITIAL FORM",
    "NOON WITH HAH WITH ALEF MAKSURA FINAL FORM|NOON WITH JEEM WITH MEEM FINAL FORM",
    "NOON WITH JEEM WITH MEEM INITIAL FORM|NOON WITH JEEM WITH ALEF MAKSURA FINAL FORM",
    "NOON WITH MEEM WITH YEH FINAL FORM|NOON WITH MEEM WITH ALEF MAKSURA FINAL FORM",
    "YEH WITH MEEM WITH MEEM FINAL FORM|YEH WITH MEEM WITH MEEM INITIAL FORM|BEH WITH KHAH WITH YEH FINAL FORM",
    "TEH WITH JEEM WITH YEH FINAL FORM|TEH WITH JEEM WITH ALEF MAKSURA FINAL FORM|TEH WITH KHAH WITH YEH FINAL FORM",
    "TEH WITH KHAH WITH ALEF MAKSURA FINAL FORM|TEH WITH MEEM WITH YEH FINAL FORM",
    "TEH WITH MEEM WITH ALEF MAKSURA FINAL FORM|JEEM WITH MEEM WITH YEH FINAL FORM",
    "JEEM WITH HAH WITH ALEF MAKSURA FINAL FORM|JEEM WITH MEEM WITH ALEF MAKSURA FINAL FORM",
    "SEEN WITH KHAH WITH ALEF MAKSURA FINAL FORM|SAD WITH HAH WITH YEH FINAL FORM",
    "SHEEN WITH HAH WITH YEH FINAL FORM|DAD WITH HAH WITH YEH FINAL FORM|LAM WITH JEEM WITH YEH FINAL FORM",
    "LAM WITH MEEM WITH YEH FINAL FORM|YEH WITH HAH WITH YEH FINAL FORM|YEH WITH JEEM WITH YEH FINAL FORM",
    "YEH WITH MEEM WITH YEH FINAL FORM|MEEM WITH MEEM WITH YEH FINAL FORM|QAF WITH MEEM WITH YEH FINAL FORM",
    "NOON WITH HAH WITH YEH FINAL FORM|QAF WITH MEEM WITH HAH INITIAL FORM|LAM WITH HAH WITH MEEM INITIAL FORM",
    "AIN WITH MEEM WITH YEH FINAL FORM|KAF WITH MEEM WITH YEH FINAL FORM|NOON WITH JEEM WITH HAH INITIAL FORM",
    "MEEM WITH KHAH WITH YEH FINAL FORM|LAM WITH JEEM WITH MEEM INITIAL FORM|KAF WITH MEEM WITH MEEM FINAL FORM",
    "LAM WITH JEEM WITH MEEM FINAL FORM|NOON WITH JEEM WITH HAH FINAL FORM|JEEM WITH HAH WITH YEH FINAL FORM",
    "HAH WITH JEEM WITH YEH FINAL FORM|MEEM WITH JEEM WITH YEH FINAL FORM|FEH WITH MEEM WITH YEH FINAL FORM",
    "BEH WITH HAH WITH YEH FINAL FORM|KAF WITH MEEM WITH MEEM INITIAL FORM|AIN WITH JEEM WITH MEEM INITIAL FORM",
    "SAD WITH MEEM WITH MEEM INITIAL FORM|SEEN WITH KHAH WITH YEH FINAL FORM|NOON WITH JEEM WITH YEH FINAL FORM"]⟩,
  ⟨0xFDCF, "ARABIC LIGATURE SALAAMUHU ALAYNAA", [""]⟩,
  ⟨0xFDF0, "ARABIC LIGATURE ", [
    "SALLA USED AS KORANIC STOP SIGN ISOLATED FORM|QALA USED AS KORANIC STOP SIGN ISOLATED FORM|ALLAH ISOLATED FORM",
    "AKBAR ISOLATED FORM|MOHAMMAD ISOLATED FORM|SALAM ISOLATED FORM|RASOUL ISOLATED FORM|ALAYHE ISOLATED FORM",
    "WASALLAM ISOLATED FORM|SALLA ISOLATED FORM|SALLALLAHOU ALAYHE WASALLAM|JALLAJALALOUHOU"]⟩,
  ⟨0xFDFC, "RIAL SIGN", [""]⟩,
  ⟨0xFDFD, "ARABIC LIGATURE ", ["BISMILLAH AR-RAHMAN AR-RAHEEM|SUBHAANAHU WA TAAALAA|AZZA WA JALL"]⟩,
  ⟨0xFE00, "VARIATION SELECTOR-", ["1|2|3|4|5|6|7|8|9|10|11|12|13|14|15|16"]⟩,
  ⟨0xFE10, "PRESENTATION FORM FOR VERTICAL ", [
    "COMMA|IDEOGRAPHIC COMMA|IDEOGRAPHIC FULL STOP|COLON|SEMICOLON|EXCLAMATION MARK|QUESTION MARK",
    "LEFT WHITE LENTICULAR BRACKET|RIGHT WHITE LENTICULAR BRAKCET|HORIZONTAL ELLIPSIS"]⟩,
  ⟨0xFE20, "COMBINING ", [
    "LIGATURE LEFT HALF|LIGATURE RIGHT HALF|DOUBLE TILDE LEFT HALF|DOUBLE TILDE RIGHT HALF|MACRON LEFT HALF",
    "MACRON RIGHT HALF|CONJOINING MACRON|LIGATURE LEFT HALF BELOW|LIGATURE RIGHT HALF BELOW|TILDE LEFT HALF BELOW",
    "TILDE RIGHT HALF BELOW|MACRON LEFT HALF BELOW|MACRON RIGHT HALF BELOW|CONJOINING MACRON BELOW",
    "CYRILLIC TITLO LEFT HALF|CYRILLIC TITLO RIGHT HALF"]⟩,
  ⟨0xFE30, "PRESENTATION FORM FOR VERTICAL ", [
    "TWO DOT LEADER|EM DASH|EN DASH|LOW LINE|WAVY LOW LINE|LEFT PARENTHESIS|RIGHT PARENTHESIS|LEFT CURLY BRACKET",
    "RIGHT CURLY BRACKET|LEFT TORTOISE SHELL BRACKET|RIGHT TORTOISE SHELL BRACKET|LEFT BLACK LENTICULAR BRACKET",
    "RIGHT BLACK LENTICULAR BRACKET|LEFT DOUBLE ANGLE BRACKET|RIGHT DOUBLE ANGLE BRACKET|LEFT ANGLE BRACKET",
    "RIGHT ANGLE BRACKET|LEFT CORNER BRACKET|RIGHT CORNER BRACKET|LEFT WHITE CORNER BRACKET",
    "RIGHT WHITE CORNER BRACKET"]⟩,
  ⟨0xFE45, "", [
    "SESAME DOT|WHITE SESAME DOT|PRESENTATION FORM FOR VERTICAL LEFT SQUARE BRACKET",
    "PRESENTATION FORM FOR VERTICAL RIGHT SQUARE BRACKET|DASHED OVERLINE|CENTRELINE OVERLINE|WAVY OVERLINE",
    "DOUBLE WAVY OVERLINE|DASHED LOW LINE|CENTRELINE LOW LINE|WAVY LOW LINE|SMALL COMMA|SMALL IDEOGRAPHIC COMMA",
    "SMALL FULL STOP"]⟩,
  ⟨0xFE54, "SMALL ", [
    "SEMICOLON|COLON|QUESTION MARK|EXCLAMATION MARK|EM DASH|LEFT PARENTHESIS|RIGHT PARENTHESIS|LEFT CURLY BRACKET",
    "RIGHT CURLY BRACKET|LEFT TORTOISE SHELL BRACKET|RIGHT TORTOISE SHELL BRACKET|NUMBER SIGN|AMPERSAND|ASTERISK",
    "PLUS SIGN|HYPHEN-MINUS|LESS-THAN SIGN|GREATER-THAN SIGN|EQUALS SIGN"]⟩,
  ⟨0xFE68, "SMALL ", ["REVERSE SOLIDUS|DOLLAR SIGN|PERCENT SIGN|COMMERCIAL AT"]⟩,
  ⟨0xFE70, "ARABIC ", [
    "FATHATAN ISOLATED FORM|TATWEEL WITH FATHATAN ABOVE|DAMMATAN ISOLATED FORM|TAIL FRAGMENT|KASRATAN ISOLATED FORM"]⟩,
  ⟨0xFE76, "ARABIC ", [
    "FATHA ISOLATED FORM|FATHA MEDIAL FORM|DAMMA ISOLATED FORM|DAMMA MEDIAL FORM|KASRA ISOLATED FORM",
    "KASRA MEDIAL FORM|SHADDA ISOLATED FORM|SHADDA MEDIAL FORM|SUKUN ISOLATED FORM|SUKUN MEDIAL FORM",
    "LETTER HAMZA ISOLATED FORM"]⟩,
  ⟨0xFE81, "ARABIC LETTER ALEF WITH ", [
    "MADDA ABOVE ISOLATED FORM|MADDA ABOVE FINAL FORM|HAMZA ABOVE ISOLATED FORM|HAMZA ABOVE FINAL FORM"]⟩,
  ⟨0xFE85, "ARABIC LETTER WAW WITH HAMZA ABOVE ", ["ISOLATED FORM|FINAL FORM"]⟩,
  ⟨0xFE87, "ARABIC LETTER ALEF WITH HAMZA BELOW ", ["ISOLATED FORM|FINAL FORM"]⟩,
  ⟨0xFE89, "ARABIC LETTER YEH WITH HAMZA ABOVE ", ["ISOLATED FORM|FINAL FORM|INITIAL FORM|MEDIAL FORM"]⟩,
  ⟨0xFE8D, "ARABIC LETTER ", [
    "ALEF ISOLATED FORM|ALEF FINAL FORM|BEH ISOLATED FORM|BEH FINAL FORM|BEH INITIAL FORM|BEH MEDIAL FORM",
    "TEH MARBUTA ISOLATED FORM|TEH MARBUTA FINAL FORM|TEH ISOLATED FORM|TEH FINAL FORM|TEH INITIAL FORM",
    "TEH MEDIAL FORM|THEH ISOLATED FORM|THEH FINAL FORM|THEH INITIAL FORM|THEH MEDIAL FORM|JEEM ISOLATED FORM",
    "JEEM FINAL FORM|JEEM INITIAL FORM|JEEM MEDIAL FORM|HAH ISOLATED FORM|HAH FINAL FORM|HAH INITIAL FORM",
    "HAH MEDIAL FORM|KHAH ISOLATED FORM|KHAH FINAL FORM|KHAH INITIAL FORM|KHAH MEDIAL FORM|DAL ISOLATED FORM",
    "DAL FINAL FORM|THAL ISOLATED FORM|THAL FINAL FORM|REH ISOLATED FORM|REH FINAL FORM|ZAIN ISOLATED FORM",
    "ZAIN FINAL FORM|SEEN ISOLATED FORM|SEEN FINAL FORM|SEEN INITIAL FORM|SEEN MEDIAL FORM|SHEEN ISOLATED FORM",
    "SHEEN FINAL FORM|SHEEN INITIAL FORM|SHEEN MEDIAL FORM|SAD ISOLATED FORM|SAD FINAL FORM|SAD INITIAL FORM",
    "SAD MEDIAL FORM|DAD ISOLATED FORM|DAD FINAL FORM|DAD INITIAL FORM|DAD MEDIAL FORM|TAH ISOLATED FORM",
    "TAH FINAL FORM|TAH INITIAL FORM|TAH MEDIAL FORM|ZAH ISOLATED FORM|ZAH FINAL FORM|ZAH INITIAL FORM",
    "ZAH MEDIAL FORM|AIN ISOLATED FORM|AIN FINAL FORM|AIN INITIAL FORM|AIN MEDIAL FORM|GHAIN ISOLATED FORM",
    "GHAIN FINAL FORM|GHAIN INITIAL FORM|GHAIN MEDIAL FORM|FEH ISOLATED FORM|FEH FINAL FORM|FEH INITIAL FORM",
    "FEH MEDIAL FORM|QAF ISOLATED FORM|QAF FINAL FORM|QAF INITIAL FORM|QAF MEDIAL FORM|KAF ISOLATED FORM",
    "KAF FINAL FORM|KAF INITIAL FORM|KAF MEDIAL FORM|LAM ISOLATED FORM|LAM FINAL FORM|LAM INITIAL FORM",
    "LAM MEDIAL FORM|MEEM ISOLATED FORM|MEEM FINAL FORM|MEEM INITIAL FORM|MEEM MEDIAL FORM|NOON ISOLATED FORM",
    "NOON FINAL FORM|NOON INITIAL FORM|NOON MEDIAL FORM|HEH ISOLATED FORM|HEH FINAL FORM|HEH INITIAL FORM",
    "HEH MEDIAL FORM|WAW ISOLATED FORM|WAW FINAL FORM|ALEF MAKSURA ISOLATED FORM|ALEF MAKSURA FINAL FORM",
    "YEH ISOLATED FORM|YEH FINAL FORM|YEH INITIAL FORM|YEH MEDIAL FORM"]⟩,
  ⟨0xFEF5, "ARABIC LIGATURE LAM WITH ALEF ", [
    "WITH MADDA ABOVE ISOLATED FORM|WITH MADDA ABOVE FINAL FORM|WITH HAMZA ABOVE ISOLATED FORM",
    "WITH HAMZA ABOVE FINAL FORM|WITH HAMZA BELOW ISOLATED FORM|WITH HAMZA BELOW FINAL FORM|ISOLATED FORM",
    "FINAL FORM"]⟩,
  ⟨0xFEFF, "ZERO WIDTH NO-BREAK SPACE", [""]⟩,
  ⟨0xFF01, "FULLWIDTH ", [
    "EXCLAMATION MARK|QUOTATION MARK|NUMBER SIGN|DOLLAR SIGN|PERCENT SIGN|AMPERSAND|APOSTROPHE|LEFT PARENTHESIS",
    "RIGHT PARENTHESIS|ASTERISK|PLUS SIGN|COMMA|HYPHEN-MINUS|FULL STOP|SOLIDUS"]⟩,
  ⟨0xFF10, "FULLWIDTH DIGIT ", ["ZERO|ONE|TWO|THREE|FOUR|FIVE|SIX|SEVEN|EIGHT|NINE"]⟩,
  ⟨0xFF1A, "FULLWIDTH ", [
    "COLON|SEMICOLON|LESS-THAN SIGN|EQUALS SIGN|GREATER-THAN SIGN|QUESTION MARK|COMMERCIAL AT"]⟩,
  ⟨0xFF21, "FULLWIDTH LATIN CAPITAL LETTER ", ["A|B|C|D|E|F|G|H|I|J|K|L|M|N|O|P|Q|R|S|T|U|V|W|X|Y|Z"]⟩,
  ⟨0xFF3B, "FULLWIDTH ", [
    "LEFT SQUARE BRACKET|REVERSE SOLIDUS|RIGHT SQUARE BRACKET|CIRCUMFLEX ACCENT|LOW LINE|GRAVE ACCENT"]⟩,
  ⟨0xFF41, "FULLWIDTH LATIN SMALL LETTER ", ["A|B|C|D|E|F|G|H|I|J|K|L|M|N|O|P|Q|R|S|T|U|V|W|X|Y|Z"]⟩,
  ⟨0xFF5B, "FULLWIDTH ", [
    "LEFT CURLY BRACKET|VERTICAL LINE|RIGHT CURLY BRACKET|TILDE|LEFT WHITE PARENTHESIS|RIGHT WHITE PARENTHESIS"]⟩,
  ⟨0xFF61, "HALFWIDTH ", [
    "IDEOGRAPHIC FULL STOP|LEFT CORNER BRACKET|RIGHT CORNER BRACKET|IDEOGRAPHIC COMMA|KATAKANA MIDDLE DOT",
    "KATAKANA LETTER WO"]⟩,
  ⟨0xFF67, "HALFWIDTH KATAKANA LETTER SMALL ", ["A|I|U|E|O|YA|YU|YO|TU"]⟩,
  ⟨0xFF70, "HALFWIDTH KATAKANA-HIRAGANA PROLONGED SOUND MARK", [""]⟩,
  ⟨0xFF71, "HALFWIDTH KATAKANA LETTER ", [
    "A|I|U|E|O|KA|KI|KU|KE|KO|SA|SI|SU|SE|SO|TA|TI|TU|TE|TO|NA|NI|NU|NE|NO|HA|HI|HU|HE|HO|MA|MI|MU|ME|MO|YA|YU|YO",
    "RA|RI|RU|RE|RO|WA|N"]⟩,
  ⟨0xFF9E, "HALFWIDTH ", ["KATAKANA VOICED SOUND MARK|KATAKANA SEMI-VOICED SOUND MARK|HANGUL FILLER"]⟩,
  ⟨0xFFA1, "HALFWIDTH HANGUL LETTER ", [
    "KIYEOK|SSANGKIYEOK|KIYEOK-SIOS|NIEUN|NIEUN-CIEUC|NIEUN-HIEUH|TIKEUT|SSANGTIKEUT|RIEUL|RIEUL-KIYEOK|RIEUL-MIEUM",
    "RIEUL-PIEUP|RIEUL-SIOS|RIEUL-THIEUTH|RIEUL-PHIEUPH|RIEUL-HIEUH|MIEUM|PIEUP|SSANGPIEUP|PIEUP-SIOS|SIOS",
    "SSANGSIOS|IEUNG|CIEUC|SSANGCIEUC|CHIEUCH|KHIEUKH|THIEUTH|PHIEUPH|HIEUH"]⟩,
  ⟨0xFFC2, "HALFWIDTH HANGUL LETTER ", ["A|AE|YA|YAE|EO|E"]⟩,
  ⟨0xFFCA, "HALFWIDTH HANGUL LETTER ", ["YEO|YE|O|WA|WAE|OE"]⟩,
  ⟨0xFFD2, "HALFWIDTH HANGUL LETTER ", ["YO|U|WEO|WE|WI|YU"]⟩,
  ⟨0xFFDA, "HALFWIDTH HANGUL LETTER ", ["EU|YI|I"]⟩,
  ⟨0xFFE0, "FULLWIDTH ", ["CENT SIGN|POUND SIGN|NOT SIGN|MACRON|BROKEN BAR|YEN SIGN|WON SIGN"]⟩,
  ⟨0xFFE8, "HALFWIDTH ", [
    "FORMS LIGHT VERTICAL|LEFTWARDS ARROW|UPWARDS ARROW|RIGHTWARDS ARROW|DOWNWARDS ARROW|BLACK SQUARE|WHITE CIRCLE"]⟩,
  ⟨0xFFF9, "INTERLINEAR ANNOTATION ", ["ANCHOR|SEPARATOR|TERMINATOR"]⟩,
  ⟨0xFFFC, "", ["OBJECT REPLACEMENT CHARACTER|REPLACEMENT CHARACTER"]⟩]

/-- From U+10000 to U+10FFF. -/
def from10000 : List NameRun := [
  ⟨0x10000, "LINEAR B SYLLABLE ", [
    "B008 A|B038 E|B028 I|B061 O|B010 U|B001 DA|B045 DE|B007 DI|B014 DO|B051 DU|B057 JA|B046 JE"]⟩,
  ⟨0x1000D, "LINEAR B SYLLABLE ", [
    "B036 JO|B065 JU|B077 KA|B044 KE|B067 KI|B070 KO|B081 KU|B080 MA|B013 ME|B073 MI|B015 MO|B023 MU|B006 NA",
    "B024 NE|B030 NI|B052 NO|B055 NU|B003 PA|B072 PE|B039 PI|B011 PO|B050 PU|B016 QA|B078 QE|B021 QI|B032 QO"]⟩,
  ⟨0x10028, "LINEAR B SYLLABLE ", [
    "B060 RA|B027 RE|B053 RI|B002 RO|B026 RU|B031 SA|B009 SE|B041 SI|B012 SO|B058 SU|B059 TA|B004 TE|B037 TI",
    "B005 TO|B069 TU|B054 WA|B075 WE|B040 WI|B042 WO"]⟩,
  ⟨0x1003C, "LINEAR B SYLLABLE ", ["B017 ZA|B074 ZE"]⟩,
  ⟨0x1003F, "LINEAR B SYLLABLE ", [
    "B020 ZO|B025 A2|B043 A3|B085 AU|B071 DWE|B090 DWO|B048 NWA|B029 PU2|B062 PTE|B076 RA2|B033 RA3|B068 RO2",
    "B066 TA2|B087 TWE|B091 TWO"]⟩,
  ⟨0x10050, "LINEAR B SYMBOL ", ["B018|B019|B022|B034|B047|B049|B056|B063|B064|B079|B082|B083|B086|B089"]⟩,
  ⟨0x10080, "LINEAR B IDEOGRAM ", [
    "B100 MAN|B102 WOMAN|B104 DEER|B105 EQUID|B105F MARE|B105M STALLION|B106F EWE|B106M RAM|B107F SHE-GOAT",
    "B107M HE-GOAT|B108F SOW|B108M BOAR|B109F COW|B109M BULL|B120 WHEAT|B121 BARLEY|B122 OLIVE|B123 SPICE",
    "B125 CYPERUS"]⟩,
  ⟨0x10093, "LINEAR B ", [
    "MONOGRAM B127 KAPO|MONOGRAM B128 KANAKO|IDEOGRAM B130 OIL|IDEOGRAM B131 WINE|IDEOGRAM B132|MONOGRAM B133 AREPA",
    "MONOGRAM B135 MERI"]⟩,
  ⟨0x1009A, "LINEAR B IDEOGRAM ", ["B140 BRONZE|B141 GOLD|B142|B145 WOOL|B146|B150|B151 HORN|B152|B153|B154"]⟩,
  ⟨0x100A4, "LINEAR B MONOGRAM B156 TURO2", [""]⟩,
  ⟨0x100A5, "LINEAR B IDEOGRAM ", [
    "B157|B158|B159 CLOTH|B160|B161|B162 GARMENT|B163 ARMOUR|B164|B165|B166|B167|B168|B169|B170|B171|B172",
    "B173 MONTH|B174|B176 TREE|B177|B178|B179|B180|B181|B182|B183|B184|B185|B189|B190|B191 HELMET|B220 FOOTSTOOL",
    "B225 BATHTUB|B230 SPEAR|B231 ARROW|B232|B233 SWORD|B234|B236|B240 WHEELED CHARIOT|B241 CHARIOT",
    "B242 CHARIOT FRAME|B243 WHEEL|B245|B246"]⟩,
  ⟨0x100D2, "LINEAR B MONOGRAM B247 DIPTE", [""]⟩,
  ⟨0x100D3, "LINEAR B IDEOGRAM ", ["B248|B249|B251|B252|B253|B254 DART|B255|B256|B257|B258|B259"]⟩,
  ⟨0x100DE, "LINEAR B IDEOGRAM VESSEL ", [
    "B155|B200|B201|B202|B203|B204|B205|B206|B207|B208|B209|B210|B211|B212|B213|B214|B215|B216|B217|B218|B219|B221",
    "B222|B226|B227|B228|B229|B250|B305"]⟩,
  ⟨0x10100, "AEGEAN ", ["WORD SEPARATOR LINE|WORD SEPARATOR DOT|CHECK MARK"]⟩,
  ⟨0x10107, "AEGEAN NUMBER ", [
    "ONE|TWO|THREE|FOUR|FIVE|SIX|SEVEN|EIGHT|NINE|TEN|TWENTY|THIRTY|FORTY|FIFTY|SIXTY|SEVENTY|EIGHTY|NINETY",
    "ONE HUNDRED|TWO HUNDRED|THREE HUNDRED|FOUR HUNDRED|FIVE HUNDRED|SIX HUNDRED|SEVEN HUNDRED|EIGHT HUNDRED",
    "NINE HUNDRED|ONE THOUSAND|TWO THOUSAND|THREE THOUSAND|FOUR THOUSAND|FIVE THOUSAND|SIX THOUSAND|SEVEN THOUSAND",
    "EIGHT THOUSAND|NINE THOUSAND|TEN THOUSAND|TWENTY THOUSAND|THIRTY THOUSAND|FORTY THOUSAND|FIFTY THOUSAND",
    "SIXTY THOUSAND|SEVENTY THOUSAND|EIGHTY THOUSAND|NINETY THOUSAND"]⟩,
  ⟨0x10137, "AEGEAN WEIGHT ", ["BASE UNIT|FIRST SUBUNIT|SECOND SUBUNIT|THIRD SUBUNIT|FOURTH SUBUNIT"]⟩,
  ⟨0x1013C, "AEGEAN ", [
    "DRY MEASURE FIRST SUBUNIT|LIQUID MEASURE FIRST SUBUNIT|MEASURE SECOND SUBUNIT|MEASURE THIRD SUBUNIT"]⟩,
  ⟨0x10140, "GREEK ACROPHONIC ATTIC ", [
    "ONE QUARTER|ONE HALF|ONE DRACHMA|FIVE|FIFTY|FIVE HUNDRED|FIVE THOUSAND|FIFTY THOUSAND|FIVE TALENTS|TEN TALENTS",
    "FIFTY TALENTS|ONE HUNDRED TALENTS|FIVE HUNDRED TALENTS|ONE THOUSAND TALENTS|FIVE THOUSAND TALENTS|FIVE STATERS",
    "TEN STATERS|FIFTY STATERS|ONE HUNDRED STATERS|FIVE HUNDRED STATERS|ONE THOUSAND STATERS|TEN THOUSAND STATERS",
    "FIFTY THOUSAND STATERS|TEN MNAS"]⟩,
  ⟨0x10158, "GREEK ACROPHONIC ", [
    "HERAEUM ONE PLETHRON|THESPIAN ONE|HERMIONIAN ONE|EPIDAUREAN TWO|THESPIAN TWO|CYRENAIC TWO DRACHMAS",
    "EPIDAUREAN TWO DRACHMAS|TROEZENIAN FIVE|TROEZENIAN TEN|TROEZENIAN TEN ALTERNATE FORM|HERMIONIAN TEN",
    "MESSENIAN TEN|THESPIAN TEN|THESPIAN THIRTY|TROEZENIAN FIFTY|TROEZENIAN FIFTY ALTERNATE FORM|HERMIONIAN FIFTY",
    "THESPIAN FIFTY|THESPIAN ONE HUNDRED|THESPIAN THREE HUNDRED|EPIDAUREAN FIVE HUNDRED|TROEZENIAN FIVE HUNDRED",
    "THESPIAN FIVE HUNDRED|CARYSTIAN FIVE HUNDRED|NAXIAN FIVE HUNDRED|THESPIAN ONE THOUSAND|THESPIAN FIVE THOUSAND",
    "DELPHIC FIVE MNAS|STRATIAN FIFTY MNAS"]⟩,
  ⟨0x10175, "GREEK ", [
    "ONE HALF SIGN|ONE HALF SIGN ALTERNATE FORM|TWO THIRDS SIGN|THREE QUARTERS SIGN|YEAR SIGN|TALENT SIGN",
    "DRACHMA SIGN|OBOL SIGN|TWO OBOLS SIGN|THREE OBOLS SIGN|FOUR OBOLS SIGN|FIVE OBOLS SIGN|METRETES SIGN",
    "KYATHOS BASE SIGN|LITRA SIGN|OUNKIA SIGN|XESTES SIGN|ARTABE SIGN|AROURA SIGN|GRAMMA SIGN|TRYBLION BASE SIGN",
    "ZERO SIGN|ONE QUARTER SIGN|SINUSOID SIGN|INDICTION SIGN"]⟩,
  ⟨0x1018E, "NOMISMA SIGN", [""]⟩,
  ⟨0x10190, "ROMAN ", [
    "SEXTANS SIGN|UNCIA SIGN|SEMUNCIA SIGN|SEXTULA SIGN|DIMIDIA SEXTULA SIGN|SILIQUA SIGN|DENARIUS SIGN",
    "QUINARIUS SIGN|SESTERTIUS SIGN|DUPONDIUS SIGN|AS SIGN|CENTURIAL SIGN"]⟩,
  ⟨0x1019C, "ASCIA SYMBOL", [""]⟩,
  ⟨0x101A0, "GREEK SYMBOL TAU RHO", [""]⟩,
  ⟨0x101D0, "PHAISTOS DISC SIGN ", [
    "PEDESTRIAN|PLUMED HEAD|TATTOOED HEAD|CAPTIVE|CHILD|WOMAN|HELMET|GAUNTLET|TIARA|ARROW|BOW|SHIELD|CLUB|MANACLES",
    "MATTOCK|SAW|LID|BOOMERANG|CARPENTRY PLANE|DOLIUM|COMB|SLING|COLUMN|BEEHIVE|SHIP|HORN|HIDE|BULLS LEG|CAT|RAM",
    "EAGLE|DOVE|TUNNY|BEE|PLANE TREE|VINE|PAPYRUS|ROSETTE|LILY|OX BACK|FLUTE|GRATER|STRAINER|SMALL AXE|WAVY BAND",
    "COMBINING OBLIQUE STROKE"]⟩,
  ⟨0x10280, "LYCIAN LETTER ", ["A|E|B|BH|G|D|I|W|Z|TH|J|K|Q|L|M|N|MM|NN|U|P|KK|R|S|T|TT|AN|EN|H|X"]⟩,
  ⟨0x102A0, "CARIAN LETTER ", [
    "A|P2|D|L|UUU|R|LD|A2|Q|B|M|O|D2|T|SH|SH2|S|C-18|U|NN|X|N|TT2|P|SS|I|E|UUUU|K|K2|ND|UU|G|G2|ST|ST2|NG|II|C-39",
    "TT|UUU2|RR|MB|MB2|MB3|MB4|LD2|E2|UUU3"]⟩,
  ⟨0x102E0, "COPTIC EPACT THOUSANDS MARK", [""]⟩,
  ⟨0x102E1, "COPTIC EPACT DIGIT ", ["ONE|TWO|THREE|FOUR|FIVE|SIX|SEVEN|EIGHT|NINE"]⟩,
  ⟨0x102EA, "COPTIC EPACT NUMBER ", [
    "TEN|TWENTY|THIRTY|FORTY|FIFTY|SIXTY|SEVENTY|EIGHTY|NINETY|ONE HUNDRED|TWO HUNDRED|THREE HUNDRED|FOUR HUNDRED",
    "FIVE HUNDRED|SIX HUNDRED|SEVEN HUNDRED|EIGHT HUNDRED|NINE HUNDRED"]⟩,
  ⟨0x10300, "OLD ITALIC LETTER ", [
    "A|BE|KE|DE|E|VE|ZE|HE|THE|I|KA|EL|EM|EN|ESH|O|PE|SHE|KU|ER|ES|TE|U|EKS|PHE|KHE|EF|ERS|CHE|II|UU|ESS"]⟩,
  ⟨0x10320, "OLD ITALIC NUMERAL ", ["ONE|FIVE|TEN|FIFTY"]⟩,
  ⟨0x1032D, "OLD ITALIC LETTER ", ["YE|NORTHERN TSE|SOUTHERN TSE"]⟩,
  ⟨0x10330, "GOTHIC LETTER ", [
    "AHSA|BAIRKAN|GIBA|DAGS|AIHVUS|QAIRTHRA|IUJA|HAGL|THIUTH|EIS|KUSMA|LAGUS|MANNA|NAUTHS|JER|URUS|PAIRTHRA|NINETY",
    "RAIDA|SAUIL|TEIWS|WINJA|FAIHU|IGGWS|HWAIR|OTHAL|NINE HUNDRED"]⟩,
  ⟨0x10350, "OLD PERMIC LETTER ", [
    "AN|BUR|GAI|DOI|E|ZHOI|DZHOI|ZATA|DZITA|I|KOKE|LEI|MENOE|NENOE|VOOI|PEEI|REI|SII|TAI|U|CHERY|SHOOI|SHCHOOI|YRY",
    "YERU|O|OO|EF|HA|TSIU|VER|YER|YERI|YAT|IE|YU|YA|IA"]⟩,
  ⟨0x10376, "COMBINING OLD PERMIC LETTER ", ["AN|DOI|ZATA|NENOE|SII"]⟩,
  ⟨0x10380, "UGARITIC LETTER ", [
    "ALPA|BETA|GAMLA|KHA|DELTA|HO|WO|ZETA|HOTA|TET|YOD|KAF|SHIN|LAMDA|MEM|DHAL|NUN|ZU|SAMKA|AIN|PU|SADE|QOPA|RASHA",
    "THANNA|GHAIN|TO|I|U|SSU"]⟩,
  ⟨0x1039F, "UGARITIC WORD DIVIDER", [""]⟩,
  ⟨0x103A0, "OLD PERSIAN SIGN ", [
    "A|I|U|KA|KU|GA|GU|XA|CA|JA|JI|TA|TU|DA|DI|DU|THA|PA|BA|FA|NA|NU|MA|MI|MU|YA|VA|VI|RA|RU|LA|SA|ZA|SHA|SSA|HA"]⟩,
  ⟨0x103C8, "OLD PERSIAN SIGN ", [
    "AURAMAZDAA|AURAMAZDAA-2|AURAMAZDAAHA|XSHAAYATHIYA|DAHYAAUSH|DAHYAAUSH-2|BAGA|BUUMISH"]⟩,
  ⟨0x103D0, "OLD PERSIAN WORD DIVIDER", [""]⟩,
  ⟨0x103D1, "OLD PERSIAN NUMBER ", ["ONE|TWO|TEN|TWENTY|HUNDRED"]⟩,
  ⟨0x10400, "DESERET CAPITAL LETTER ", [
    "LONG I|LONG E|LONG A|LONG AH|LONG O|LONG OO|SHORT I|SHORT E|SHORT A|SHORT AH|SHORT O|SHORT OO|AY|OW|WU|YEE|H",
    "PEE|BEE|TEE|DEE|CHEE|JEE|KAY|GAY|EF|VEE|ETH|THEE|ES|ZEE|ESH|ZHEE|ER|EL|EM|EN|ENG|OI|EW"]⟩,
  ⟨0x10428, "DESERET SMALL LETTER ", [
    "LONG I|LONG E|LONG A|LONG AH|LONG O|LONG OO|SHORT I|SHORT E|SHORT A|SHORT AH|SHORT O|SHORT OO|AY|OW|WU|YEE|H",
    "PEE|BEE|TEE|DEE|CHEE|JEE|KAY|GAY|EF|VEE|ETH|THEE|ES|ZEE|ESH|ZHEE|ER|EL|EM|EN|ENG|OI|EW"]⟩,
  ⟨0x10450, "SHAVIAN LETTER ", [
    "PEEP|TOT|KICK|FEE|THIGH|SO|SURE|CHURCH|YEA|HUNG|BIB|DEAD|GAG|VOW|THEY|ZOO|MEASURE|JUDGE|WOE|HA-HA|LOLL|MIME|IF",
    "EGG|ASH|ADO|ON|WOOL|OUT|AH|ROAR|NUN|EAT|AGE|ICE|UP|OAK|OOZE|OIL|AWE|ARE|OR|AIR|ERR|ARRAY|EAR|IAN|YEW"]⟩,
  ⟨0x10480, "OSMANYA LETTER ", [
    "ALEF|BA|TA|JA|XA|KHA|DEEL|RA|SA|SHIIN|DHA|CAYN|GA|FA|QAAF|KAAF|LAAN|MIIN|NUUN|WAW|HA|YA|A|E|I|O|U|AA|EE|OO"]⟩,
  ⟨0x104A0, "OSMANYA DIGIT ", ["ZERO|ONE|TWO|THREE|FOUR|FIVE|SIX|SEVEN|EIGHT|NINE"]⟩,
  ⟨0x104B0, "OSAGE CAPITAL LETTER ", [
    "A|AI|AIN|AH|BRA|CHA|EHCHA|E|EIN|HA|HYA|I|KA|EHKA|KYA|LA|MA|NA|O|OIN|PA|EHPA|SA|SHA|TA|EHTA|TSA|EHTSA|TSHA|DHA",
    "U|WA|KHA|GHA|ZA|ZHA"]⟩,
  ⟨0x104D8, "OSAGE SMALL LETTER ", [
    "A|AI|AIN|AH|BRA|CHA|EHCHA|E|EIN|HA|HYA|I|KA|EHKA|KYA|LA|MA|NA|O|OIN|PA|EHPA|SA|SHA|TA|EHTA|TSA|EHTSA|TSHA|DHA",
    "U|WA|KHA|GHA|ZA|ZHA"]⟩,
  ⟨0x10500, "ELBASAN LETTER ", [
    "A|BE|CE|CHE|DE|NDE|DHE|EI|E|FE|GE|GJE|HE|I|JE|KE|LE|LLE|ME|NE|NA|NJE|O|PE|QE|RE|RRE|SE|SHE|TE|THE|U|VE|XE|Y|ZE",
    "ZHE|GHE|GHAMMA|KHE"]⟩,
  ⟨0x10530, "CAUCASIAN ALBANIAN LETTER ", [
    "ALT|BET|GIM|DAT|EB|ZARL|EYN|ZHIL|TAS|CHA|YOWD|ZHA|IRB|SHA|LAN|INYA|XEYN|DYAN|CAR|JHOX|KAR|LYIT|HEYT|QAY|AOR",
    "CHOY|CHI|CYAY|MAQ|QAR|NOWC|DZYAY|SHAK|JAYN|ON|TYAY|FAM|DZAY|CHAT|PEN|GHEYS|RAT|SEYK|VEYZ|TIWR|SHOY|IWN|CYAW",
    "CAYN|YAYD|PIWR|KIW"]⟩,
  ⟨0x1056F, "CAUCASIAN ALBANIAN CITATION MARK", [""]⟩,
  ⟨0x10570, "VITHKUQI CAPITAL LETTER ", ["A|BBE|BE|CE|CHE|DE|DHE|EI|E|FE|GA"]⟩,
  ⟨0x1057C, "VITHKUQI CAPITAL LETTER ", ["HA|HHA|I|IJE|JE|KA|LA|LLA|ME|NE|NJE|O|PE|QA|RE"]⟩,
  ⟨0x1058C, "VITHKUQI CAPITAL LETTER ", ["SE|SHE|TE|THE|U|VE|XE"]⟩,
  ⟨0x10594, "VITHKUQI CAPITAL LETTER ", ["Y|ZE"]⟩,
  ⟨0x10597, "VITHKUQI SMALL LETTER ", ["A|BBE|BE|CE|CHE|DE|DHE|EI|E|FE|GA"]⟩,
  ⟨0x105A3, "VITHKUQI SMALL LETTER ", ["HA|HHA|I|IJE|JE|KA|LA|LLA|ME|NE|NJE|O|PE|QA|RE"]⟩,
  ⟨0x105B3, "VITHKUQI SMALL LETTER ", ["SE|SHE|TE|THE|U|VE|XE"]⟩,
  ⟨0x105BB, "VITHKUQI SMALL LETTER ", ["Y|ZE"]⟩,
  ⟨0x10600, "LINEAR A SIGN ", [
    "AB001|AB002|AB003|AB004|AB005|AB006|AB007|AB008|AB009|AB010|AB011|AB013|AB016|AB017|AB020|AB021|AB021F|AB021M",
    "AB022|AB022F|AB022M|AB023|AB023M|AB024|AB026|AB027|AB028|A028B|AB029|AB030|AB031|AB034|AB037|AB038|AB039|AB040",
    "AB041|AB044|AB045|AB046|AB047|AB048|AB049|AB050|AB051|AB053|AB054|AB055|AB056|AB057|AB058|AB059|AB060|AB061",
    "AB065|AB066|AB067|AB069|AB070|AB073|AB074|AB076|AB077|AB078|AB079|AB080|AB081|AB082|AB085|AB086|AB087|A100-102",
    "AB118|AB120|A120B|AB122|AB123|AB131A|AB131B|A131C|AB164|AB171|AB180|AB188|AB191|A301|A302|A303|A304|A305|A306",
    "A307|A308|A309A|A309B|A309C|A310|A311|A312|A313A|A313B|A313C|A314|A315|A316|A317|A318|A319|A320|A321|A322|A323",
    "A324|A325|A326|A327|A328|A329|A330|A331|A332|A333|A334|A335|A336|A337|A338|A339|A340|A341|A342|A343|A344|A345",
    "A346|A347|A348|A349|A350|A351|A352|A353|A354|A355|A356|A357|A358|A359|A360|A361|A362|A363|A364|A365|A366|A367",
    "A368|A369|A370|A371|A400-VAS|A401-VAS|A402-VAS|A403-VAS|A404-VAS|A405-VAS|A406-VAS|A407-VAS|A408-VAS|A409-VAS",
    "A410-VAS|A411-VAS|A412-VAS|A413-VAS|A414-VAS|A415-VAS|A416-VAS|A417-VAS|A418-VAS|A501|A502|A503|A504|A505|A506",
    "A508|A509|A510|A511|A512|A513|A515|A516|A520|A521|A523|A524|A525|A526|A527|A528|A529|A530|A531|A532|A534|A535",
    "A536|A537|A538|A539|A540|A541|A542|A545|A547|A548|A549|A550|A551|A552|A553|A554|A555|A556|A557|A559|A563|A564",
    "A565|A566|A568|A569|A570|A571|A572|A573|A574|A575|A576|A577|A578|A579|A580|A581|A582|A583|A584|A585|A586|A587",
    "A588|A589|A591|A592|A594|A595|A596|A598|A600|A601|A602|A603|A604|A606|A608|A609|A610|A611|A612|A613|A614|A615",
    "A616|A617|A618|A619|A620|A621|A622|A623|A624|A626|A627|A628|A629|A634|A637|A638|A640|A642|A643|A644|A645|A646",
    "A648|A649|A651|A652|A653|A654|A655|A656|A657|A658|A659|A660|A661|A662|A663|A664"]⟩,
  ⟨0x10740, "LINEAR A SIGN ", [
    "A701 A|A702 B|A703 D|A704 E|A705 F|A706 H|A707 J|A708 K|A709 L|A709-2 L2|A709-3 L3|A709-4 L4|A709-6 L6|A710 W",
    "A711 X|A712 Y|A713 OMEGA|A714 ABB|A715 BB|A717 DD|A726 EYYY|A732 JE"]⟩,
  ⟨0x10760, "LINEAR A SIGN ", ["A800|A801|A802|A803|A804|A805|A806|A807"]⟩,
  ⟨0x10780, "MODIFIER LETTER ", [
    "SMALL CAPITAL AA|SUPERSCRIPT TRIANGULAR COLON|SUPERSCRIPT HALF TRIANGULAR COLON|SMALL AE|SMALL CAPITAL B",
    "SMALL B WITH HOOK"]⟩,
  ⟨0x10787, "MODIFIER LETTER SMALL ", [
    "DZ DIGRAPH|DZ DIGRAPH WITH RETROFLEX HOOK|DZ DIGRAPH WITH CURL|DEZH DIGRAPH|D WITH TAIL|D WITH HOOK",
    "D WITH HOOK AND TAIL|REVERSED E|CLOSED REVERSED OPEN E|FENG DIGRAPH|RAMS HORN|CAPITAL G|G WITH HOOK",
    "CAPITAL G WITH HOOK|H WITH STROKE|CAPITAL H|HENG WITH HOOK|DOTLESS J WITH STROKE AND HOOK|LS DIGRAPH",
    "LZ DIGRAPH|L WITH BELT|CAPITAL L WITH BELT|L WITH RETROFLEX HOOK AND BELT|LEZH|LEZH WITH RETROFLEX HOOK",
    "TURNED Y|TURNED Y WITH BELT|O WITH STROKE|CAPITAL OE|CLOSED OMEGA|Q|TURNED R WITH LONG LEG",
    "TURNED R WITH LONG LEG AND RETROFLEX HOOK|R WITH TAIL|R WITH FISHHOOK|CAPITAL R|TC DIGRAPH WITH CURL",
    "TS DIGRAPH|TS DIGRAPH WITH RETROFLEX HOOK|TESH DIGRAPH|T WITH RETROFLEX HOOK|V WITH RIGHT HOOK"]⟩,
  ⟨0x107B2, "MODIFIER LETTER ", [
    "SMALL CAPITAL Y|GLOTTAL STOP WITH STROKE|REVERSED GLOTTAL STOP WITH STROKE|BILABIAL CLICK|DENTAL CLICK",
    "LATERAL CLICK|ALVEOLAR CLICK|RETROFLEX CLICK WITH RETROFLEX HOOK|SMALL S WITH CURL"]⟩,
  ⟨0x10800, "CYPRIOT SYLLABLE ", ["A|E|I|O|U|JA"]⟩,
  ⟨0x10808, "CYPRIOT SYLLABLE JO", [""]⟩,
  ⟨0x1080A, "CYPRIOT SYLLABLE ", [
    "KA|KE|KI|KO|KU|LA|LE|LI|LO|LU|MA|ME|MI|MO|MU|NA|NE|NI|NO|NU|PA|PE|PI|PO|PU|RA|RE|RI|RO|RU|SA|SE|SI|SO|SU|TA|TE",
    "TI|TO|TU|WA|WE|WI|WO"]⟩,
  ⟨0x10837, "CYPRIOT SYLLABLE ", ["XA|XE"]⟩,
  ⟨0x1083C, "CYPRIOT SYLLABLE ZA", [""]⟩,
  ⟨0x1083F, "CYPRIOT SYLLABLE ZO", [""]⟩,
  ⟨0x10840, "IMPERIAL ARAMAIC LETTER ", [
    "ALEPH|BETH|GIMEL|DALETH|HE|WAW|ZAYIN|HETH|TETH|YODH|KAPH|LAMEDH|MEM|NUN|SAMEKH|AYIN|PE|SADHE|QOPH|RESH|SHIN",
    "TAW"]⟩,
  ⟨0x10857, "IMPERIAL ARAMAIC SECTION SIGN", [""]⟩,
  ⟨0x10858, "IMPERIAL ARAMAIC NUMBER ", ["ONE|TWO|THREE|TEN|TWENTY|ONE HUNDRED|ONE THOUSAND|TEN THOUSAND"]⟩,
  ⟨0x10860, "PALMYRENE LETTER ", [
    "ALEPH|BETH|GIMEL|DALETH|HE|WAW|ZAYIN|HETH|TETH|YODH|KAPH|LAMEDH|MEM|FINAL NUN|NUN|SAMEKH|AYIN|PE|SADHE|QOPH",
    "RESH|SHIN|TAW"]⟩,
  ⟨0x10877, "PALMYRENE ", ["LEFT-POINTING FLEURON|RIGHT-POINTING FLEURON"]⟩,
  ⟨0x10879, "PALMYRENE NUMBER ", ["ONE|TWO|THREE|FOUR|FIVE|TEN|TWENTY"]⟩,
  ⟨0x10880, "NABATAEAN LETTER ", [
    "FINAL ALEPH|ALEPH|FINAL BETH|BETH|GIMEL|DALETH|FINAL HE|HE|WAW|ZAYIN|HETH|TETH|FINAL YODH|YODH|FINAL KAPH|KAPH",
    "FINAL LAMEDH|LAMEDH|FINAL MEM|MEM|FINAL NUN|NUN|SAMEKH|AYIN|PE|SADHE|QOPH|RESH|FINAL SHIN|SHIN|TAW"]⟩,
  ⟨0x108A7, "NABATAEAN ", [
    "NUMBER ONE|NUMBER TWO|NUMBER THREE|NUMBER FOUR|CRUCIFORM NUMBER FOUR|NUMBER FIVE|NUMBER TEN|NUMBER TWENTY",
    "NUMBER ONE HUNDRED"]⟩,
  ⟨0x108E0, "HATRAN LETTER ", [
    "ALEPH|BETH|GIMEL|DALETH-RESH|HE|WAW|ZAYN|HETH|TETH|YODH|KAPH|LAMEDH|MEM|NUN|SAMEKH|AYN|PE|SADHE|QOPH"]⟩,
  ⟨0x108F4, "HATRAN LETTER ", ["SHIN|TAW"]⟩,
  ⟨0x108FB, "HATRAN NUMBER ", ["ONE|FIVE|TEN|TWENTY|ONE HUNDRED"]⟩,
  ⟨0x10900, "PHOENICIAN LETTER ", [
    "ALF|BET|GAML|DELT|HE|WAU|ZAI|HET|TET|YOD|KAF|LAMD|MEM|NUN|SEMK|AIN|PE|SADE|QOF|ROSH|SHIN|TAU"]⟩,
  ⟨0x10916, "PHOENICIAN NUMBER ", ["ONE|TEN|TWENTY|ONE HUNDRED|TWO|THREE"]⟩,
  ⟨0x1091F, "PHOENICIAN WORD SEPARATOR", [""]⟩,
  ⟨0x10920, "LYDIAN LETTER ", ["A|B|G|D|E|V|I|Y|K|L|M|N|O|R|SS|T|U|F|Q|S|TT|AN|EN|LY|NN|C"]⟩,
  ⟨0x1093F, "LYDIAN TRIANGULAR MARK", [""]⟩,
  ⟨0x10980, "MEROITIC HIEROGLYPHIC LETTER ", [
    "A|E|I|O|YA|WA|BA|BA-2|PA|MA|NA|NA-2|NE|NE-2|RA|RA-2|LA|KHA|HHA|SA|SA-2|SE|KA|QA|TA|TA-2|TE|TE-2|TO|DA"]⟩,
  ⟨0x1099E, "MEROITIC HIEROGLYPHIC SYMBOL ", ["VIDJ|VIDJ-2"]⟩,
  ⟨0x109A0, "MEROITIC CURSIVE LETTER ", [
    "A|E|I|O|YA|WA|BA|PA|MA|NA|NE|RA|LA|KHA|HHA|SA|ARCHAIC SA|SE|KA|QA|TA|TE|TO|DA"]⟩,
  ⟨0x109BC, "MEROITIC CURSIVE ", ["FRACTION ELEVEN TWELFTHS|FRACTION ONE HALF|LOGOGRAM RMT|LOGOGRAM IMN"]⟩,
  ⟨0x109C0, "MEROITIC CURSIVE NUMBER ", [
    "ONE|TWO|THREE|FOUR|FIVE|SIX|SEVEN|EIGHT|NINE|TEN|TWENTY|THIRTY|FORTY|FIFTY|SIXTY|SEVENTY"]⟩,
  ⟨0x109D2, "MEROITIC CURSIVE NUMBER ", [
    "ONE HUNDRED|TWO HUNDRED|THREE HUNDRED|FOUR HUNDRED|FIVE HUNDRED|SIX HUNDRED|SEVEN HUNDRED|EIGHT HUNDRED",
    "NINE HUNDRED|ONE THOUSAND|TWO THOUSAND|THREE THOUSAND|FOUR THOUSAND|FIVE THOUSAND|SIX THOUSAND|SEVEN THOUSAND",
    "EIGHT THOUSAND|NINE THOUSAND|TEN THOUSAND|TWENTY THOUSAND|THIRTY THOUSAND|FORTY THOUSAND|FIFTY THOUSAND",
    "SIXTY THOUSAND|SEVENTY THOUSAND|EIGHTY THOUSAND|NINETY THOUSAND|ONE HUNDRED THOUSAND|TWO HUNDRED THOUSAND",
    "THREE HUNDRED THOUSAND|FOUR HUNDRED THOUSAND|FIVE HUNDRED THOUSAND|SIX HUNDRED THOUSAND|SEVEN HUNDRED THOUSAND",
    "EIGHT HUNDRED THOUSAND|NINE HUNDRED THOUSAND"]⟩,
  ⟨0x109F6, "MEROITIC CURSIVE FRACTION ", [
    "ONE TWELFTH|TWO TWELFTHS|THREE TWELFTHS|FOUR TWELFTHS|FIVE TWELFTHS|SIX TWELFTHS|SEVEN TWELFTHS|EIGHT TWELFTHS",
    "NINE TWELFTHS|TEN TWELFTHS"]⟩,
  ⟨0x10A00, "KHAROSHTHI ", ["LETTER A|VOWEL SIGN I|VOWEL SIGN U|VOWEL SIGN VOCALIC R"]⟩,
  ⟨0x10A05, "KHAROSHTHI VOWEL SIGN ", ["E|O"]⟩,
  ⟨0x10A0C, "KHAROSHTHI ", [
    "VOWEL LENGTH MARK|SIGN DOUBLE RING BELOW|SIGN ANUSVARA|SIGN VISARGA|LETTER KA|LETTER KHA|LETTER GA|LETTER GHA"]⟩,
  ⟨0x10A15, "KHAROSHTHI LETTER ", ["CA|CHA|JA"]⟩,
  ⟨0x10A19, "KHAROSHTHI LETTER ", [
    "NYA|TTA|TTHA|DDA|DDHA|NNA|TA|THA|DA|DHA|NA|PA|PHA|BA|BHA|MA|YA|RA|LA|VA|SHA|SSA|SA|ZA|HA|KKA|TTTHA|TTTA|VHA"]⟩,
  ⟨0x10A38, "KHAROSHTHI SIGN ", ["BAR ABOVE|CAUDA|DOT BELOW"]⟩,
  ⟨0x10A3F, "KHAROSHTHI ", [
    "VIRAMA|DIGIT ONE|DIGIT TWO|DIGIT THREE|DIGIT FOUR|NUMBER TEN|NUMBER TWENTY|NUMBER ONE HUNDRED",
    "NUMBER ONE THOUSAND|FRACTION ONE HALF"]⟩,
  ⟨0x10A50, "KHAROSHTHI PUNCTUATION ", [
    "DOT|SMALL CIRCLE|CIRCLE|CRESCENT BAR|MANGALAM|LOTUS|DANDA|DOUBLE DANDA|LINES"]⟩,
  ⟨0x10A60, "OLD SOUTH ARABIAN LETTER ", [
    "HE|LAMEDH|HETH|MEM|QOPH|WAW|SHIN|RESH|BETH|TAW|SAT|KAPH|NUN|KHETH|SADHE|SAMEKH|FE|ALEF|AYN|DHADHE|GIMEL|DALETH",
    "GHAYN|TETH|ZAYN|DHALETH|YODH|THAW|THETH"]⟩,
  ⟨0x10A7D, "OLD SOUTH ARABIAN ", ["NUMBER ONE|NUMBER FIFTY|NUMERIC INDICATOR"]⟩,
  ⟨0x10A80, "OLD NORTH ARABIAN LETTER ", [
    "HEH|LAM|HAH|MEEM|QAF|WAW|ES-2|REH|BEH|TEH|ES-1|KAF|NOON|KHAH|SAD|ES-3|FEH|ALEF|AIN|DAD|GEEM|DAL|GHAIN|TAH|ZAIN",
    "THAL|YEH|THEH|ZAH"]⟩,
  ⟨0x10A9D, "OLD NORTH ARABIAN NUMBER ", ["ONE|TEN|TWENTY"]⟩,
  ⟨0x10AC0, "MANICHAEAN LETTER ", ["ALEPH|BETH|BHETH|GIMEL|GHIMEL|DALETH|HE|WAW"]⟩,
  ⟨0x10AC8, "MANICHAEAN SIGN UD", [""]⟩,
  ⟨0x10AC9, "MANICHAEAN LETTER ", [
    "ZAYIN|ZHAYIN|JAYIN|JHAYIN|HETH|TETH|YODH|KAPH|XAPH|KHAPH|LAMEDH|DHAMEDH|THAMEDH|MEM|NUN|SAMEKH|AYIN|AAYIN|PE",
    "FE|SADHE|QOPH|XOPH|QHOPH|RESH|SHIN|SSHIN|TAW"]⟩,
  ⟨0x10AE5, "MANICHAEAN ABBREVIATION MARK ", ["ABOVE|BELOW"]⟩,
  ⟨0x10AEB, "MANICHAEAN NUMBER ", ["ONE|FIVE|TEN|TWENTY|ONE HUNDRED"]⟩,
  ⟨0x10AF0, "MANICHAEAN PUNCTUATION ", [
    "STAR|FLEURON|DOUBLE DOT WITHIN DOT|DOT WITHIN DOT|DOT|TWO DOTS|LINE FILLER"]⟩,
  ⟨0x10B00, "AVESTAN LETTER ", [
    "A|AA|AO|AAO|AN|AAN|AE|AEE|E|EE|O|OO|I|II|U|UU|KE|XE|XYE|XVE|GE|GGE|GHE|CE|JE|TE|THE|DE|DHE|TTE|PE|FE|BE|BHE",
    "NGE|NGYE|NGVE|NE|NYE|NNE|ME|HME|YYE|YE|VE|RE|LE|SE|ZE|SHE|ZHE|SHYE|SSHE|HE"]⟩,
  ⟨0x10B39, "", [
    "AVESTAN ABBREVIATION MARK|TINY TWO DOTS OVER ONE DOT PUNCTUATION|SMALL TWO DOTS OVER ONE DOT PUNCTUATION"]⟩,
  ⟨0x10B3C, "LARGE ", [
    "TWO DOTS OVER ONE DOT PUNCTUATION|ONE DOT OVER TWO DOTS PUNCTUATION|TWO RINGS OVER ONE RING PUNCTUATION",
    "ONE RING OVER TWO RINGS PUNCTUATION"]⟩,
  ⟨0x10B40, "INSCRIPTIONAL PARTHIAN LETTER ", [
    "ALEPH|BETH|GIMEL|DALETH|HE|WAW|ZAYIN|HETH|TETH|YODH|KAPH|LAMEDH|MEM|NUN|SAMEKH|AYIN|PE|SADHE|QOPH|RESH|SHIN",
    "TAW"]⟩,
  ⟨0x10B58, "INSCRIPTIONAL PARTHIAN NUMBER ", ["ONE|TWO|THREE|FOUR|TEN|TWENTY|ONE HUNDRED|ONE THOUSAND"]⟩,
  ⟨0x10B60, "INSCRIPTIONAL PAHLAVI LETTER ", [
    "ALEPH|BETH|GIMEL|DALETH|HE|WAW-AYIN-RESH|ZAYIN|HETH|TETH|YODH|KAPH|LAMEDH|MEM-QOPH|NUN|SAMEKH|PE|SADHE|SHIN",
    "TAW"]⟩,
  ⟨0x10B78, "INSCRIPTIONAL PAHLAVI NUMBER ", ["ONE|TWO|THREE|FOUR|TEN|TWENTY|ONE HUNDRED|ONE THOUSAND"]⟩,
  ⟨0x10B80, "PSALTER PAHLAVI LETTER ", [
    "ALEPH|BETH|GIMEL|DALETH|HE|WAW-AYIN-RESH|ZAYIN|HETH|YODH|KAPH|LAMEDH|MEM-QOPH|NUN|SAMEKH|PE|SADHE|SHIN|TAW"]⟩,
  ⟨0x10B99, "PSALTER PAHLAVI ", ["SECTION MARK|TURNED SECTION MARK|FOUR DOTS WITH CROSS|FOUR DOTS WITH DOT"]⟩,
  ⟨0x10BA9, "PSALTER PAHLAVI NUMBER ", ["ONE|TWO|THREE|FOUR|TEN|TWENTY|ONE HUNDRED"]⟩,
  ⟨0x10C00, "OLD TURKIC LETTER ", [
    "ORKHON A|YENISEI A|YENISEI AE|ORKHON I|YENISEI I|YENISEI E|ORKHON O|ORKHON OE|YENISEI OE|ORKHON AB|YENISEI AB",
    "ORKHON AEB|YENISEI AEB|ORKHON AG|YENISEI AG|ORKHON AEG|YENISEI AEG|ORKHON AD|YENISEI AD|ORKHON AED|ORKHON EZ",
    "YENISEI EZ|ORKHON AY|YENISEI AY|ORKHON AEY|YENISEI AEY|ORKHON AEK|YENISEI AEK|ORKHON OEK|YENISEI OEK|ORKHON AL",
    "YENISEI AL|ORKHON AEL|ORKHON ELT|ORKHON EM|ORKHON AN|ORKHON AEN|YENISEI AEN|ORKHON ENT|YENISEI ENT|ORKHON ENC",
    "YENISEI ENC|ORKHON ENY|YENISEI ENY|YENISEI ANG|ORKHON ENG|YENISEI AENG|ORKHON EP|ORKHON OP|ORKHON IC|ORKHON EC",
    "YENISEI EC|ORKHON AQ|YENISEI AQ|ORKHON IQ|YENISEI IQ|ORKHON OQ|YENISEI OQ|ORKHON AR|YENISEI AR|ORKHON AER",
    "ORKHON AS|ORKHON AES|ORKHON ASH|YENISEI ASH|ORKHON ESH|YENISEI ESH|ORKHON AT|YENISEI AT|ORKHON AET|YENISEI AET",
    "ORKHON OT|ORKHON BASH"]⟩,
  ⟨0x10C80, "OLD HUNGARIAN CAPITAL LETTER ", [
    "A|AA|EB|AMB|EC|ENC|ECS|ED|AND|E|CLOSE E|EE|EF|EG|EGY|EH|I|II|EJ|EK|AK|UNK|EL|ELY|EM|EN|ENY|O|OO|NIKOLSBURG OE",
    "RUDIMENTA OE|OEE|EP|EMP|ER|SHORT ER|ES|ESZ|ET|ENT|ETY|ECH|U|UU|NIKOLSBURG UE|RUDIMENTA UE|EV|EZ|EZS",
    "ENT-SHAPED SIGN|US"]⟩,
  ⟨0x10CC0, "OLD HUNGARIAN SMALL LETTER ", [
    "A|AA|EB|AMB|EC|ENC|ECS|ED|AND|E|CLOSE E|EE|EF|EG|EGY|EH|I|II|EJ|EK|AK|UNK|EL|ELY|EM|EN|ENY|O|OO|NIKOLSBURG OE",
    "RUDIMENTA OE|OEE|EP|EMP|ER|SHORT ER|ES|ESZ|ET|ENT|ETY|ECH|U|UU|NIKOLSBURG UE|RUDIMENTA UE|EV|EZ|EZS",
    "ENT-SHAPED SIGN|US"]⟩,
  ⟨0x10CFA, "OLD HUNGARIAN NUMBER ", ["ONE|FIVE|TEN|FIFTY|ONE HUNDRED|ONE THOUSAND"]⟩,
  ⟨0x10D00, "HANIFI ROHINGYA LETTER ", [
    "A|BA|PA|TA|TTA|JA|CA|HA|KHA|FA|DA|DDA|RA|RRA|ZA|SA|SHA|KA|GA|LA|MA|NA|WA|KINNA WA|YA|KINNA YA|NGA|NYA|VA"]⟩,
  ⟨0x10D1D, "HANIFI ROHINGYA ", [
    "VOWEL A|VOWEL I|VOWEL U|VOWEL E|VOWEL O|MARK SAKIN|MARK NA KHONNA|SIGN HARBAHAY|SIGN TAHALA|SIGN TANA",
    "SIGN TASSI"]⟩,
  ⟨0x10D30, "HANIFI ROHINGYA DIGIT ", ["ZERO|ONE|TWO|THREE|FOUR|FIVE|SIX|SEVEN|EIGHT|NINE"]⟩,
  ⟨0x10E60, "RUMI DIGIT ", ["ONE|TWO|THREE|FOUR|FIVE|SIX|SEVEN|EIGHT|NINE"]⟩,
  ⟨0x10E69, "RUMI NUMBER ", [
    "TEN|TWENTY|THIRTY|FORTY|FIFTY|SIXTY|SEVENTY|EIGHTY|NINETY|ONE HUNDRED|TWO HUNDRED|THREE HUNDRED|FOUR HUNDRED",
    "FIVE HUNDRED|SIX HUNDRED|SEVEN HUNDRED|EIGHT HUNDRED|NINE HUNDRED"]⟩,
  ⟨0x10E7B, "RUMI FRACTION ", ["ONE HALF|ONE QUARTER|ONE THIRD|TWO THIRDS"]⟩,
  ⟨0x10E80, "YEZIDI LETTER ", [
    "ELIF|BE|PE|PHE|THE|SE|CIM|CHIM|CHHIM|HHA|XA|DAL|ZAL|RA|RHA|ZA|JA|SIN|SHIN|SAD|DAD|TA|ZE|EYN|XHEYN|FA|VA",
    "VA ALTERNATE FORM|QAF|KAF|KHAF|GAF|LAM|MIM|NUN|UM|WAW|OW|EW|HAY|YOT|ET"]⟩,
  ⟨0x10EAB, "YEZIDI ", ["COMBINING HAMZA MARK|COMBINING MADDA MARK|HYPHENATION MARK"]⟩,
  ⟨0x10EB0, "YEZIDI LETTER ", ["LAM WITH DOT ABOVE|YOT WITH CIRCUMFLEX ABOVE"]⟩,
  ⟨0x10F00, "OLD SOGDIAN LETTER ", [
    "ALEPH|FINAL ALEPH|BETH|FINAL BETH|GIMEL|HE|FINAL HE|WAW|ZAYIN|HETH|YODH|KAPH|LAMEDH|MEM|NUN|FINAL NUN",
    "FINAL NUN WITH VERTICAL TAIL|SAMEKH|AYIN|ALTERNATE AYIN|PE|SADHE|FINAL SADHE|FINAL SADHE WITH VERTICAL TAIL",
    "RESH-AYIN-DALETH|SHIN|TAW|FINAL TAW|FINAL TAW WITH VERTICAL TAIL"]⟩,
  ⟨0x10F1D, "OLD SOGDIAN NUMBER ", ["ONE|TWO|THREE|FOUR|FIVE|TEN|TWENTY|THIRTY|ONE HUNDRED"]⟩,
  ⟨0x10F26, "OLD SOGDIAN ", ["FRACTION ONE HALF|LIGATURE AYIN-DALETH"]⟩,
  ⟨0x10F30, "SOGDIAN LETTER ", [
    "ALEPH|BETH|GIMEL|HE|WAW|ZAYIN|HETH|YODH|KAPH|LAMEDH|MEM|NUN|SAMEKH|AYIN|PE|SADHE|RESH-AYIN|SHIN|TAW|FETH|LESH"]⟩,
  ⟨0x10F45, "SOGDIAN INDEPENDENT SHIN", [""]⟩,
  ⟨0x10F46, "SOGDIAN COMBINING ", [
    "DOT BELOW|TWO DOTS BELOW|DOT ABOVE|TWO DOTS ABOVE|CURVE ABOVE|CURVE BELOW|HOOK ABOVE|HOOK BELOW",
    "LONG HOOK BELOW|RESH BELOW|STROKE BELOW"]⟩,
  ⟨0x10F51, "SOGDIAN NUMBER ", ["ONE|TEN|TWENTY|ONE HUNDRED"]⟩,
  ⟨0x10F55, "SOGDIAN PUNCTUATION ", [
    "TWO VERTICAL BARS|TWO VERTICAL BARS WITH DOTS|CIRCLE WITH DOT|TWO CIRCLES WITH DOTS|HALF CIRCLE WITH DOT"]⟩,
  ⟨0x10F70, "OLD UYGHUR LETTER ", [
    "ALEPH|BETH|GIMEL-HETH|WAW|ZAYIN|FINAL HETH|YODH|KAPH|LAMEDH|MEM|NUN|SAMEKH|PE|SADHE|RESH|SHIN|TAW|LESH"]⟩,
  ⟨0x10F82, "OLD UYGHUR COMBINING ", ["DOT ABOVE|DOT BELOW|TWO DOTS ABOVE|TWO DOTS BELOW"]⟩,
  ⟨0x10F86, "OLD UYGHUR PUNCTUATION ", ["BAR|TWO BARS|TWO DOTS|FOUR DOTS"]⟩,
  ⟨0x10FB0, "CHORASMIAN LETTER ", [
    "ALEPH|SMALL ALEPH|BETH|GIMEL|DALETH|HE|WAW|CURLED WAW|ZAYIN|HETH|YODH|KAPH|LAMEDH|MEM|NUN|SAMEKH|AYIN|PE|RESH",
    "SHIN|TAW"]⟩,
  ⟨0x10FC5, "CHORASMIAN NUMBER ", ["ONE|TWO|THREE|FOUR|TEN|TWENTY|ONE HUNDRED"]⟩,
  ⟨0x10FE0, "ELYMAIC LETTER ", [
    "ALEPH|BETH|GIMEL|DALETH|HE|WAW|ZAYIN|HETH|TETH|YODH|KAPH|LAMEDH|MEM|NUN|SAMEKH|AYIN|PE|SADHE|QOPH|RESH|SHIN",
    "TAW"]⟩,
  ⟨0x10FF6, "ELYMAIC LIGATURE ZAYIN-YODH", [""]⟩]

/-- From U+11000 to U+11FFF. -/
def from11000 : List NameRun := [
  ⟨0x11000, "BRAHMI SIGN ", ["CANDRABINDU|ANUSVARA|VISARGA|JIHVAMULIYA|UPADHMANIYA"]⟩,
  ⟨0x11005, "BRAHMI LETTER ", [
    "A|AA|I|II|U|UU|VOCALIC R|VOCALIC RR|VOCALIC L|VOCALIC LL|E|AI|O|AU|KA|KHA|GA|GHA|NGA|CA|CHA|JA|JHA|NYA|TTA",
    "TTHA|DDA|DDHA|NNA|TA|THA|DA|DHA|NA|PA|PHA|BA|BHA|MA|YA|RA|LA|VA|SHA|SSA|SA|HA|LLA|OLD TAMIL LLLA|OLD TAMIL RRA",
    "OLD TAMIL NNNA"]⟩,
  ⟨0x11038, "BRAHMI VOWEL SIGN ", [
    "AA|BHATTIPROLU AA|I|II|U|UU|VOCALIC R|VOCALIC RR|VOCALIC L|VOCALIC LL|E|AI|O|AU"]⟩,
  ⟨0x11046, "BRAHMI ", ["VIRAMA|DANDA|DOUBLE DANDA"]⟩,
  ⟨0x11049, "BRAHMI PUNCTUATION ", ["DOT|DOUBLE DOT|LINE|CRESCENT BAR|LOTUS"]⟩,
  ⟨0x11052, "BRAHMI NUMBER ", [
    "ONE|TWO|THREE|FOUR|FIVE|SIX|SEVEN|EIGHT|NINE|TEN|TWENTY|THIRTY|FORTY|FIFTY|SIXTY|SEVENTY|EIGHTY|NINETY",
    "ONE HUNDRED|ONE THOUSAND"]⟩,
  ⟨0x11066, "BRAHMI DIGIT ", ["ZERO|ONE|TWO|THREE|FOUR|FIVE|SIX|SEVEN|EIGHT|NINE"]⟩,
  ⟨0x11070, "BRAHMI ", [
    "SIGN OLD TAMIL VIRAMA|LETTER OLD TAMIL SHORT E|LETTER OLD TAMIL SHORT O|VOWEL SIGN OLD TAMIL SHORT E",
    "VOWEL SIGN OLD TAMIL SHORT O|LETTER OLD TAMIL LLA"]⟩,
  ⟨0x1107F, "BRAHMI NUMBER JOINER", [""]⟩,
  ⟨0x11080, "KAITHI SIGN ", ["CANDRABINDU|ANUSVARA|VISARGA"]⟩,
  ⟨0x11083, "KAITHI LETTER ", [
    "A|AA|I|II|U|UU|E|AI|O|AU|KA|KHA|GA|GHA|NGA|CA|CHA|JA|JHA|NYA|TTA|TTHA|DDA|DDDHA|DDHA|RHA|NNA|TA|THA|DA|DHA|NA",
    "PA|PHA|BA|BHA|MA|YA|RA|LA|VA|SHA|SSA|SA|HA"]⟩,
  ⟨0x110B0, "KAITHI VOWEL SIGN ", ["AA|I|II|U|UU|E|AI|O|AU"]⟩,
  ⟨0x110B9, "KAITHI ", [
    "SIGN VIRAMA|SIGN NUKTA|ABBREVIATION SIGN|ENUMERATION SIGN|NUMBER SIGN|SECTION MARK|DOUBLE SECTION MARK|DANDA",
    "DOUBLE DANDA|VOWEL SIGN VOCALIC R"]⟩,
  ⟨0x110CD, "KAITHI NUMBER SIGN ABOVE", [""]⟩,
  ⟨0x110D0, "SORA SOMPENG LETTER ", [
    "SAH|TAH|BAH|CAH|DAH|GAH|MAH|NGAH|LAH|NAH|VAH|PAH|YAH|RAH|HAH|KAH|JAH|NYAH|AH|EEH|IH|UH|OH|EH|MAE"]⟩,
  ⟨0x110F0, "SORA SOMPENG DIGIT ", ["ZERO|ONE|TWO|THREE|FOUR|FIVE|SIX|SEVEN|EIGHT|NINE"]⟩,
  ⟨0x11100, "CHAKMA SIGN ", ["CANDRABINDU|ANUSVARA|VISARGA"]⟩,
  ⟨0x11103, "CHAKMA LETTER ", [
    "AA|I|U|E|KAA|KHAA|GAA|GHAA|NGAA|CAA|CHAA|JAA|JHAA|NYAA|TTAA|TTHAA|DDAA|DDHAA|NNAA|TAA|THAA|DAA|DHAA|NAA|PAA",
    "PHAA|BAA|BHAA|MAA|YYAA|YAA|RAA|LAA|WAA|SAA|HAA"]⟩,
  ⟨0x11127, "CHAKMA VOWEL SIGN ", ["A|I|II|U|UU|E|AI|O|AU|OI"]⟩,
  ⟨0x11131, "CHAKMA ", ["O MARK|AU MARK|VIRAMA|MAAYYAA"]⟩,
  ⟨0x11136, "CHAKMA DIGIT ", ["ZERO|ONE|TWO|THREE|FOUR|FIVE|SIX|SEVEN|EIGHT|NINE"]⟩,
  ⟨0x11140, "CHAKMA ", [
    "SECTION MARK|DANDA|DOUBLE DANDA|QUESTION MARK|LETTER LHAA|VOWEL SIGN AA|VOWEL SIGN EI|LETTER VAA"]⟩,
  ⟨0x11150, "MAHAJANI LETTER ", [
    "A|I|U|E|O|KA|KHA|GA|GHA|CA|CHA|JA|JHA|NYA|TTA|TTHA|DDA|DDHA|NNA|TA|THA|DA|DHA|NA|PA|PHA|BA|BHA|MA|RA|LA|VA|SA",
    "HA|RRA"]⟩,
  ⟨0x11173, "MAHAJANI ", ["SIGN NUKTA|ABBREVIATION SIGN|SECTION MARK|LIGATURE SHRI"]⟩,
  ⟨0x11180, "SHARADA SIGN ", ["CANDRABINDU|ANUSVARA|VISARGA"]⟩,
  ⟨0x11183, "SHARADA LETTER ", [
    "A|AA|I|II|U|UU|VOCALIC R|VOCALIC RR|VOCALIC L|VOCALIC LL|E|AI|O|AU|KA|KHA|GA|GHA|NGA|CA|CHA|JA|JHA|NYA|TTA",
    "TTHA|DDA|DDHA|NNA|TA|THA|DA|DHA|NA|PA|PHA|BA|BHA|MA|YA|RA|LA|LLA|VA|SHA|SSA|SA|HA"]⟩,
  ⟨0x111B3, "SHARADA VOWEL SIGN ", ["AA|I|II|U|UU|VOCALIC R|VOCALIC RR|VOCALIC L|VOCALIC LL|E|AI|O|AU"]⟩,
  ⟨0x111C0, "SHARADA ", [
    "SIGN VIRAMA|SIGN AVAGRAHA|SIGN JIHVAMULIYA|SIGN UPADHMANIYA|OM|DANDA|DOUBLE DANDA|ABBREVIATION SIGN|SEPARATOR",
    "SANDHI MARK|SIGN NUKTA|VOWEL MODIFIER MARK|EXTRA SHORT VOWEL MARK|SUTRA MARK|VOWEL SIGN PRISHTHAMATRA E",
    "SIGN INVERTED CANDRABINDU"]⟩,
  ⟨0x111D0, "SHARADA DIGIT ", ["ZERO|ONE|TWO|THREE|FOUR|FIVE|SIX|SEVEN|EIGHT|NINE"]⟩,
  ⟨0x111DA, "SHARADA ", ["EKAM|SIGN SIDDHAM|HEADSTROKE|CONTINUATION SIGN|SECTION MARK-1|SECTION MARK-2"]⟩,
  ⟨0x111E1, "SINHALA ARCHAIC DIGIT ", ["ONE|TWO|THREE|FOUR|FIVE|SIX|SEVEN|EIGHT|NINE"]⟩,
  ⟨0x111EA, "SINHALA ARCHAIC NUMBER ", [
    "TEN|TWENTY|THIRTY|FORTY|FIFTY|SIXTY|SEVENTY|EIGHTY|NINETY|ONE HUNDRED|ONE THOUSAND"]⟩,
  ⟨0x11200, "KHOJKI LETTER ", ["A|AA|I|U|E|AI|O|AU|KA|KHA|GA|GGA|GHA|NGA|CA|CHA|JA|JJA"]⟩,
  ⟨0x11213, "KHOJKI LETTER ", [
    "NYA|TTA|TTHA|DDA|DDHA|NNA|TA|THA|DA|DDDA|DHA|NA|PA|PHA|BA|BBA|BHA|MA|YA|RA|LA|VA|SA|HA|LLA"]⟩,
  ⟨0x1122C, "KHOJKI VOWEL SIGN ", ["AA|I|II|U|E|AI|O|AU"]⟩,
  ⟨0x11234, "KHOJKI ", [
    "SIGN ANUSVARA|SIGN VIRAMA|SIGN NUKTA|SIGN SHADDA|DANDA|DOUBLE DANDA|WORD SEPARATOR|SECTION MARK",
    "DOUBLE SECTION MARK|ABBREVIATION SIGN|SIGN SUKUN"]⟩,
  ⟨0x11280, "MULTANI LETTER ", ["A|I|U|E|KA|KHA|GA"]⟩,
  ⟨0x11288, "MULTANI LETTER GHA", [""]⟩,
  ⟨0x1128A, "MULTANI LETTER ", ["CA|CHA|JA|JJA"]⟩,
  ⟨0x1128F, "MULTANI LETTER ", ["NYA|TTA|TTHA|DDA|DDDA|DDHA|NNA|TA|THA|DA|DHA|NA|PA|PHA|BA"]⟩,
  ⟨0x1129F, "MULTANI LETTER ", ["BHA|MA|YA|RA|LA|VA|SA|HA|RRA|RHA"]⟩,
  ⟨0x112A9, "MULTANI SECTION MARK", [""]⟩,
  ⟨0x112B0, "KHUDAWADI LETTER ", [
    "A|AA|I|II|U|UU|E|AI|O|AU|KA|KHA|GA|GGA|GHA|NGA|CA|CHA|JA|JJA|JHA|NYA|TTA|TTHA|DDA|DDDA|RRA|DDHA|NNA|TA|THA|DA",
    "DHA|NA|PA|PHA|BA|BBA|BHA|MA|YA|RA|LA|VA|SHA|SA|HA"]⟩,
  ⟨0x112DF, "KHUDAWADI SIGN ANUSVARA", [""]⟩,
  ⟨0x112E0, "KHUDAWADI VOWEL SIGN ", ["AA|I|II|U|UU|E|AI|O|AU"]⟩,
  ⟨0x112E9, "KHUDAWADI SIGN ", ["NUKTA|VIRAMA"]⟩,
  ⟨0x112F0, "KHUDAWADI DIGIT ", ["ZERO|ONE|TWO|THREE|FOUR|FIVE|SIX|SEVEN|EIGHT|NINE"]⟩,
  ⟨0x11300, "GRANTHA SIGN ", ["COMBINING ANUSVARA ABOVE|CANDRABINDU|ANUSVARA|VISARGA"]⟩,
  ⟨0x11305, "GRANTHA LETTER ", ["A|AA|I|II|U|UU|VOCALIC R|VOCALIC L"]⟩,
  ⟨0x1130F, "GRANTHA LETTER ", ["EE|AI"]⟩,
  ⟨0x11313, "GRANTHA LETTER ", ["OO|AU|KA|KHA|GA|GHA|NGA|CA|CHA|JA|JHA|NYA|TTA|TTHA|DDA|DDHA|NNA|TA|THA|DA|DHA|NA"]⟩,
  ⟨0x1132A, "GRANTHA LETTER ", ["PA|PHA|BA|BHA|MA|YA|RA"]⟩,
  ⟨0x11332, "GRANTHA LETTER ", ["LA|LLA"]⟩,
  ⟨0x11335, "GRANTHA LETTER ", ["VA|SHA|SSA|SA|HA"]⟩,
  ⟨0x1133B, "", ["COMBINING BINDU BELOW|GRANTHA SIGN NUKTA|GRANTHA SIGN AVAGRAHA"]⟩,
  ⟨0x1133E, "GRANTHA VOWEL SIGN ", ["AA|I|II|U|UU|VOCALIC R|VOCALIC RR"]⟩,
  ⟨0x11347, "GRANTHA VOWEL SIGN ", ["EE|AI"]⟩,
  ⟨0x1134B, "GRANTHA ", ["VOWEL SIGN OO|VOWEL SIGN AU|SIGN VIRAMA"]⟩,
  ⟨0x11350, "GRANTHA OM", [""]⟩,
  ⟨0x11357, "GRANTHA AU LENGTH MARK", [""]⟩,
  ⟨0x1135D, "GRANTHA ", [
    "SIGN PLUTA|LETTER VEDIC ANUSVARA|LETTER VEDIC DOUBLE ANUSVARA|LETTER VOCALIC RR|LETTER VOCALIC LL",
    "VOWEL SIGN VOCALIC L|VOWEL SIGN VOCALIC LL"]⟩,
  ⟨0x11366, "COMBINING GRANTHA DIGIT ", ["ZERO|ONE|TWO|THREE|FOUR|FIVE|SIX"]⟩,
  ⟨0x11370, "COMBINING GRANTHA LETTER ", ["A|KA|NA|VI|PA"]⟩,
  ⟨0x11400, "NEWA LETTER ", [
    "A|AA|I|II|U|UU|VOCALIC R|VOCALIC RR|VOCALIC L|VOCALIC LL|E|AI|O|AU|KA|KHA|GA|GHA|NGA|NGHA|CA|CHA|JA|JHA|NYA",
    "NYHA|TTA|TTHA|DDA|DDHA|NNA|TA|THA|DA|DHA|NA|NHA|PA|PHA|BA|BHA|MA|MHA|YA|RA|RHA|LA|LHA|WA|SHA|SSA|SA|HA"]⟩,
  ⟨0x11435, "NEWA VOWEL SIGN ", ["AA|I|II|U|UU|VOCALIC R|VOCALIC RR|VOCALIC L|VOCALIC LL|E|AI|O|AU"]⟩,
  ⟨0x11442, "NEWA SIGN ", ["VIRAMA|CANDRABINDU|ANUSVARA|VISARGA|NUKTA|AVAGRAHA|FINAL ANUSVARA"]⟩,
  ⟨0x11449, "NEWA ", ["OM|SIDDHI|DANDA|DOUBLE DANDA|COMMA|GAP FILLER|ABBREVIATION SIGN"]⟩,
  ⟨0x11450, "NEWA DIGIT ", ["ZERO|ONE|TWO|THREE|FOUR|FIVE|SIX|SEVEN|EIGHT|NINE"]⟩,
  ⟨0x1145A, "NEWA ", ["DOUBLE COMMA|PLACEHOLDER MARK"]⟩,
  ⟨0x1145D, "NEWA ", ["INSERTION SIGN|SANDHI MARK|LETTER VEDIC ANUSVARA|SIGN JIHVAMULIYA|SIGN UPADHMANIYA"]⟩,
  ⟨0x11480, "TIRHUTA ANJI", [""]⟩,
  ⟨0x11481, "TIRHUTA LETTER ", [
    "A|AA|I|II|U|UU|VOCALIC R|VOCALIC RR|VOCALIC L|VOCALIC LL|E|AI|O|AU|KA|KHA|GA|GHA|NGA|CA|CHA|JA|JHA|NYA|TTA",
    "TTHA|DDA|DDHA|NNA|TA|THA|DA|DHA|NA|PA|PHA|BA|BHA|MA|YA|RA|LA|VA|SHA|SSA|SA|HA"]⟩,
  ⟨0x114B0, "TIRHUTA VOWEL SIGN ", [
    "AA|I|II|U|UU|VOCALIC R|VOCALIC RR|VOCALIC L|VOCALIC LL|E|SHORT E|AI|O|SHORT O|AU"]⟩,
  ⟨0x114BF, "TIRHUTA SIGN ", ["CANDRABINDU|ANUSVARA|VISARGA|VIRAMA|NUKTA|AVAGRAHA"]⟩,
  ⟨0x114C5, "TIRHUTA ", ["GVANG|ABBREVIATION SIGN|OM"]⟩,
  ⟨0x114D0, "TIRHUTA DIGIT ", ["ZERO|ONE|TWO|THREE|FOUR|FIVE|SIX|SEVEN|EIGHT|NINE"]⟩,
  ⟨0x11580, "SIDDHAM LETTER ", [
    "A|AA|I|II|U|UU|VOCALIC R|VOCALIC RR|VOCALIC L|VOCALIC LL|E|AI|O|AU|KA|KHA|GA|GHA|NGA|CA|CHA|JA|JHA|NYA|TTA",
    "TTHA|DDA|DDHA|NNA|TA|THA|DA|DHA|NA|PA|PHA|BA|BHA|MA|YA|RA|LA|VA|SHA|SSA|SA|HA"]⟩,
  ⟨0x115AF, "SIDDHAM VOWEL SIGN ", ["AA|I|II|U|UU|VOCALIC R|VOCALIC RR"]⟩,
  ⟨0x115B8, "SIDDHAM VOWEL SIGN ", ["E|AI|O|AU"]⟩,
  ⟨0x115BC, "SIDDHAM SIGN ", ["CANDRABINDU|ANUSVARA|VISARGA|VIRAMA|NUKTA|SIDDHAM"]⟩,
  ⟨0x115C2, "SIDDHAM ", [
    "DANDA|DOUBLE DANDA|SEPARATOR DOT|SEPARATOR BAR|REPETITION MARK-1|REPETITION MARK-2|REPETITION MARK-3",
    "END OF TEXT MARK"]⟩,
  ⟨0x115CA, "SIDDHAM SECTION MARK ", [
    "WITH TRIDENT AND U-SHAPED ORNAMENTS|WITH TRIDENT AND DOTTED CRESCENTS|WITH RAYS AND DOTTED CRESCENTS",
    "WITH RAYS AND DOTTED DOUBLE CRESCENTS|WITH RAYS AND DOTTED TRIPLE CRESCENTS|DOUBLE RING|DOUBLE RING WITH RAYS",
    "WITH DOUBLE CRESCENTS|WITH TRIPLE CRESCENTS|WITH QUADRUPLE CRESCENTS|WITH SEPTUPLE CRESCENTS",
    "WITH CIRCLES AND RAYS|WITH CIRCLES AND TWO ENCLOSURES|WITH CIRCLES AND FOUR ENCLOSURES"]⟩,
  ⟨0x115D8, "SIDDHAM LETTER ", [
    "THREE-CIRCLE ALTERNATE I|TWO-CIRCLE ALTERNATE I|TWO-CIRCLE ALTERNATE II|ALTERNATE U"]⟩,
  ⟨0x115DC, "SIDDHAM VOWEL SIGN ALTERNATE ", ["U|UU"]⟩,
  ⟨0x11600, "MODI LETTER ", [
    "A|AA|I|II|U|UU|VOCALIC R|VOCALIC RR|VOCALIC L|VOCALIC LL|E|AI|O|AU|KA|KHA|GA|GHA|NGA|CA|CHA|JA|JHA|NYA|TTA",
    "TTHA|DDA|DDHA|NNA|TA|THA|DA|DHA|NA|PA|PHA|BA|BHA|MA|YA|RA|LA|VA|SHA|SSA|SA|HA|LLA"]⟩,
  ⟨0x11630, "MODI VOWEL SIGN ", ["AA|I|II|U|UU|VOCALIC R|VOCALIC RR|VOCALIC L|VOCALIC LL|E|AI|O|AU"]⟩,
  ⟨0x1163D, "MODI ", [
    "SIGN ANUSVARA|SIGN VISARGA|SIGN VIRAMA|SIGN ARDHACANDRA|DANDA|DOUBLE DANDA|ABBREVIATION SIGN|SIGN HUVA"]⟩,
  ⟨0x11650, "MODI DIGIT ", ["ZERO|ONE|TWO|THREE|FOUR|FIVE|SIX|SEVEN|EIGHT|NINE"]⟩,
  ⟨0x11660, "MONGOLIAN ", [
    "BIRGA WITH ORNAMENT|ROTATED BIRGA|DOUBLE BIRGA WITH ORNAMENT|TRIPLE BIRGA WITH ORNAMENT",
    "BIRGA WITH DOUBLE ORNAMENT|ROTATED BIRGA WITH ORNAMENT|ROTATED BIRGA WITH DOUBLE ORNAMENT|INVERTED BIRGA",
    "INVERTED BIRGA WITH DOUBLE ORNAMENT|SWIRL BIRGA|SWIRL BIRGA WITH ORNAMENT|SWIRL BIRGA WITH DOUBLE ORNAMENT",
    "TURNED SWIRL BIRGA WITH DOUBLE ORNAMENT"]⟩,
  ⟨0x11680, "TAKRI LETTER ", [
    "A|AA|I|II|U|UU|E|AI|O|AU|KA|KHA|GA|GHA|NGA|CA|CHA|JA|JHA|NYA|TTA|TTHA|DDA|DDHA|NNA|TA|THA|DA|DHA|NA|PA|PHA|BA",
    "BHA|MA|YA|RA|LA|VA|SHA|SA|HA|RRA"]⟩,
  ⟨0x116AB, "TAKRI SIGN ", ["ANUSVARA|VISARGA"]⟩,
  ⟨0x116AD, "TAKRI VOWEL SIGN ", ["AA|I|II|U|UU|E|AI|O|AU"]⟩,
  ⟨0x116B6, "TAKRI ", ["SIGN VIRAMA|SIGN NUKTA|LETTER ARCHAIC KHA|ABBREVIATION SIGN"]⟩,
  ⟨0x116C0, "TAKRI DIGIT ", ["ZERO|ONE|TWO|THREE|FOUR|FIVE|SIX|SEVEN|EIGHT|NINE"]⟩,
  ⟨0x11700, "AHOM LETTER ", [
    "KA|KHA|NGA|NA|TA|ALTERNATE TA|PA|PHA|BA|MA|JA|CHA|THA|RA|LA|SA|NYA|HA|A|DA|DHA|GA|ALTERNATE GA|GHA|BHA|JHA",
    "ALTERNATE BA"]⟩,
  ⟨0x1171D, "AHOM CONSONANT SIGN MEDIAL ", ["LA|RA|LIGATING RA"]⟩,
  ⟨0x11720, "AHOM VOWEL SIGN ", ["A|AA|I|II|U|UU|E|AW|O|AI|AM"]⟩,
  ⟨0x1172B, "AHOM SIGN KILLER", [""]⟩,
  ⟨0x11730, "AHOM DIGIT ", ["ZERO|ONE|TWO|THREE|FOUR|FIVE|SIX|SEVEN|EIGHT|NINE"]⟩,
  ⟨0x1173A, "AHOM ", ["NUMBER TEN|NUMBER TWENTY|SIGN SMALL SECTION|SIGN SECTION|SIGN RULAI|SYMBOL VI"]⟩,
  ⟨0x11740, "AHOM LETTER ", ["CA|TTA|TTHA|DDA|DDHA|NNA|LLA"]⟩,
  ⟨0x11800, "DOGRA LETTER ", [
    "A|AA|I|II|U|UU|E|AI|O|AU|KA|KHA|GA|GHA|NGA|CA|CHA|JA|JHA|NYA|TTA|TTHA|DDA|DDHA|NNA|TA|THA|DA|DHA|NA|PA|PHA|BA",
    "BHA|MA|YA|RA|LA|VA|SHA|SSA|SA|HA|RRA"]⟩,
  ⟨0x1182C, "DOGRA VOWEL SIGN ", ["AA|I|II|U|UU|VOCALIC R|VOCALIC RR|E|AI|O|AU"]⟩,
  ⟨0x11837, "DOGRA ", ["SIGN ANUSVARA|SIGN VISARGA|SIGN VIRAMA|SIGN NUKTA|ABBREVIATION SIGN"]⟩,
  ⟨0x118A0, "WARANG CITI CAPITAL LETTER ", [
    "NGAA|A|WI|YU|YA|YO|II|UU|E|O|ANG|GA|KO|ENY|YUJ|UC|ENN|ODD|TTE|NUNG|DA|AT|AM|BU|PU|HIYO|HOLO|HORR|HAR|SSUU|SII",
    "VIYO"]⟩,
  ⟨0x118C0, "WARANG CITI SMALL LETTER ", [
    "NGAA|A|WI|YU|YA|YO|II|UU|E|O|ANG|GA|KO|ENY|YUJ|UC|ENN|ODD|TTE|NUNG|DA|AT|AM|BU|PU|HIYO|HOLO|HORR|HAR|SSUU|SII",
    "VIYO"]⟩,
  ⟨0x118E0, "WARANG CITI DIGIT ", ["ZERO|ONE|TWO|THREE|FOUR|FIVE|SIX|SEVEN|EIGHT|NINE"]⟩,
  ⟨0x118EA, "WARANG CITI NUMBER ", ["TEN|TWENTY|THIRTY|FORTY|FIFTY|SIXTY|SEVENTY|EIGHTY|NINETY"]⟩,
  ⟨0x118FF, "WARANG CITI OM", [""]⟩,
  ⟨0x11900, "DIVES AKURU LETTER ", ["A|AA|I|II|U|UU|E"]⟩,
  ⟨0x11909, "DIVES AKURU LETTER O", [""]⟩,
  ⟨0x1190C, "DIVES AKURU LETTER ", ["KA|KHA|GA|GHA|NGA|CA|CHA|JA"]⟩,
  ⟨0x11915, "DIVES AKURU LETTER ", ["NYA|TTA"]⟩,
  ⟨0x11918, "DIVES AKURU LETTER ", [
    "DDA|DDHA|NNA|TA|THA|DA|DHA|NA|PA|PHA|BA|BHA|MA|YA|YYA|RA|LA|VA|SHA|SSA|SA|HA|LLA|ZA"]⟩,
  ⟨0x11930, "DIVES AKURU VOWEL SIGN ", ["AA|I|II|U|UU|E"]⟩,
  ⟨0x11937, "DIVES AKURU VOWEL SIGN ", ["AI|O"]⟩,
  ⟨0x1193B, "DIVES AKURU ", [
    "SIGN ANUSVARA|SIGN CANDRABINDU|SIGN HALANTA|VIRAMA|PREFIXED NASAL SIGN|MEDIAL YA|INITIAL RA|MEDIAL RA",
    "SIGN NUKTA|DOUBLE DANDA|GAP FILLER|END OF TEXT MARK"]⟩,
  ⟨0x11950, "DIVES AKURU DIGIT ", ["ZERO|ONE|TWO|THREE|FOUR|FIVE|SIX|SEVEN|EIGHT|NINE"]⟩,
  ⟨0x119A0, "NANDINAGARI LETTER ", ["A|AA|I|II|U|UU|VOCALIC R|VOCALIC RR"]⟩,
  ⟨0x119AA, "NANDINAGARI LETTER ", [
    "E|AI|O|AU|KA|KHA|GA|GHA|NGA|CA|CHA|JA|JHA|NYA|TTA|TTHA|DDA|DDHA|NNA|TA|THA|DA|DHA|NA|PA|PHA|BA|BHA|MA|YA|RA|LA",
    "VA|SHA|SSA|SA|HA|LLA|RRA"]⟩,
  ⟨0x119D1, "NANDINAGARI VOWEL SIGN ", ["AA|I|II|U|UU|VOCALIC R|VOCALIC RR"]⟩,
  ⟨0x119DA, "NANDINAGARI VOWEL SIGN ", ["E|AI|O|AU"]⟩,
  ⟨0x119DE, "NANDINAGARI ", [
    "SIGN ANUSVARA|SIGN VISARGA|SIGN VIRAMA|SIGN AVAGRAHA|SIGN SIDDHAM|HEADSTROKE|VOWEL SIGN PRISHTHAMATRA E"]⟩,
  ⟨0x11A00, "ZANABAZAR SQUARE LETTER A", [""]⟩,
  ⟨0x11A01, "ZANABAZAR SQUARE VOWEL SIGN ", ["I|UE|U|E|OE|O|AI|AU|REVERSED I"]⟩,
  ⟨0x11A0A, "ZANABAZAR SQUARE VOWEL LENGTH MARK", [""]⟩,
  ⟨0x11A0B, "ZANABAZAR SQUARE LETTER ", [
    "KA|KHA|GA|GHA|NGA|CA|CHA|JA|NYA|TTA|TTHA|DDA|DDHA|NNA|TA|THA|DA|DHA|NA|PA|PHA|BA|BHA|MA|TSA|TSHA|DZA|DZHA|ZHA",
    "ZA|-A|YA|RA|LA|VA|SHA|SSA|SA|HA|KSSA"]⟩,
  ⟨0x11A33, "ZANABAZAR SQUARE ", [
    "FINAL CONSONANT MARK|SIGN VIRAMA|SIGN CANDRABINDU|SIGN CANDRABINDU WITH ORNAMENT|SIGN CANDRA WITH ORNAMENT",
    "SIGN ANUSVARA|SIGN VISARGA|CLUSTER-INITIAL LETTER RA|CLUSTER-FINAL LETTER YA|CLUSTER-FINAL LETTER RA",
    "CLUSTER-FINAL LETTER LA|CLUSTER-FINAL LETTER VA|INITIAL HEAD MARK|CLOSING HEAD MARK|MARK TSHEG|MARK SHAD",
    "MARK DOUBLE SHAD|MARK LONG TSHEG|INITIAL DOUBLE-LINED HEAD MARK|CLOSING DOUBLE-LINED HEAD MARK|SUBJOINER"]⟩,
  ⟨0x11A50, "SOYOMBO LETTER A", [""]⟩,
  ⟨0x11A51, "SOYOMBO VOWEL SIGN ", ["I|UE|U|E|O|OE|AI|AU|VOCALIC R|VOCALIC L"]⟩,
  ⟨0x11A5B, "SOYOMBO VOWEL LENGTH MARK", [""]⟩,
  ⟨0x11A5C, "SOYOMBO LETTER ", [
    "KA|KHA|GA|GHA|NGA|CA|CHA|JA|JHA|NYA|TTA|TTHA|DDA|DDHA|NNA|TA|THA|DA|DHA|NA|PA|PHA|BA|BHA|MA|TSA|TSHA|DZA|ZHA",
    "ZA|-A|YA|RA|LA|VA|SHA|SSA|SA|HA|KSSA"]⟩,
  ⟨0x11A84, "SOYOMBO SIGN ", ["JIHVAMULIYA|UPADHMANIYA"]⟩,
  ⟨0x11A86, "SOYOMBO CLUSTER-INITIAL LETTER ", ["RA|LA|SHA|SA"]⟩,
  ⟨0x11A8A, "SOYOMBO FINAL CONSONANT SIGN ", ["G|K|NG|D|N|B|M|R|L|SH|S|-A"]⟩,
  ⟨0x11A96, "SOYOMBO ", [
    "SIGN ANUSVARA|SIGN VISARGA|GEMINATION MARK|SUBJOINER|MARK TSHEG|MARK SHAD|MARK DOUBLE SHAD|MARK PLUTA"]⟩,
  ⟨0x11A9E, "SOYOMBO HEAD MARK WITH MOON AND ", ["SUN AND TRIPLE FLAME|SUN AND FLAME|SUN"]⟩,
  ⟨0x11AA1, "SOYOMBO TERMINAL MARK-", ["1|2"]⟩,
  ⟨0x11AB0, "CANADIAN SYLLABICS NATTILIK ", ["HI|HII|HO|HOO|HA|HAA|SHRI|SHRII|SHRO|SHROO|SHRA|SHRAA"]⟩,
  ⟨0x11ABC, "CANADIAN SYLLABICS ", ["SPE|SPI|SPO|SPA"]⟩,
  ⟨0x11AC0, "PAU CIN HAU LETTER ", [
    "PA|KA|LA|MA|DA|ZA|VA|NGA|HA|GA|KHA|SA|BA|CA|TA|THA|NA|PHA|RA|FA|CHA|A|E|I|O|U|UA|IA"]⟩,
  ⟨0x11ADC, "PAU CIN HAU LETTER FINAL ", ["P|K|T|M|N|L|W|NG|Y"]⟩,
  ⟨0x11AE5, "PAU CIN HAU ", [
    "RISING TONE LONG|RISING TONE|SANDHI GLOTTAL STOP|RISING TONE LONG FINAL|RISING TONE FINAL",
    "SANDHI GLOTTAL STOP FINAL|SANDHI TONE LONG|SANDHI TONE|SANDHI TONE LONG FINAL|SANDHI TONE FINAL|MID-LEVEL TONE",
    "GLOTTAL STOP VARIANT|MID-LEVEL TONE LONG FINAL|MID-LEVEL TONE FINAL|LOW-FALLING TONE LONG|LOW-FALLING TONE",
    "GLOTTAL STOP|LOW-FALLING TONE LONG FINAL|LOW-FALLING TONE FINAL|GLOTTAL STOP FINAL"]⟩,
  ⟨0x11C00, "BHAIKSUKI LETTER ", ["A|AA|I|II|U|UU|VOCALIC R|VOCALIC RR|VOCALIC L"]⟩,
  ⟨0x11C0A, "BHAIKSUKI LETTER ", [
    "E|AI|O|AU|KA|KHA|GA|GHA|NGA|CA|CHA|JA|JHA|NYA|TTA|TTHA|DDA|DDHA|NNA|TA|THA|DA|DHA|NA|PA|PHA|BA|BHA|MA|YA|RA|LA",
    "VA|SHA|SSA|SA|HA"]⟩,
  ⟨0x11C2F, "BHAIKSUKI VOWEL SIGN ", ["AA|I|II|U|UU|VOCALIC R|VOCALIC RR|VOCALIC L"]⟩,
  ⟨0x11C38, "BHAIKSUKI VOWEL SIGN ", ["E|AI|O|AU"]⟩,
  ⟨0x11C3C, "BHAIKSUKI ", [
    "SIGN CANDRABINDU|SIGN ANUSVARA|SIGN VISARGA|SIGN VIRAMA|SIGN AVAGRAHA|DANDA|DOUBLE DANDA|WORD SEPARATOR",
    "GAP FILLER-1|GAP FILLER-2"]⟩,
  ⟨0x11C50, "BHAIKSUKI DIGIT ", ["ZERO|ONE|TWO|THREE|FOUR|FIVE|SIX|SEVEN|EIGHT|NINE"]⟩,
  ⟨0x11C5A, "BHAIKSUKI NUMBER ", [
    "ONE|TWO|THREE|FOUR|FIVE|SIX|SEVEN|EIGHT|NINE|TEN|TWENTY|THIRTY|FORTY|FIFTY|SIXTY|SEVENTY|EIGHTY|NINETY"]⟩,
  ⟨0x11C6C, "BHAIKSUKI HUNDREDS UNIT MARK", [""]⟩,
  ⟨0x11C70, "MARCHEN ", ["HEAD MARK|MARK SHAD"]⟩,
  ⟨0x11C72, "MARCHEN LETTER ", [
    "KA|KHA|GA|NGA|CA|CHA|JA|NYA|TA|THA|DA|NA|PA|PHA|BA|MA|TSA|TSHA|DZA|WA|ZHA|ZA|-A|YA|RA|LA|SHA|SA|HA|A"]⟩,
  ⟨0x11C92, "MARCHEN SUBJOINED LETTER ", [
    "KA|KHA|GA|NGA|CA|CHA|JA|NYA|TA|THA|DA|NA|PA|PHA|BA|MA|TSA|TSHA|DZA|WA|ZHA|ZA"]⟩,
  ⟨0x11CA9, "MARCHEN SUBJOINED LETTER ", ["YA|RA|LA|SHA|SA|HA|A"]⟩,
  ⟨0x11CB0, "MARCHEN VOWEL SIGN ", ["AA|I|U|E|O"]⟩,
  ⟨0x11CB5, "MARCHEN SIGN ", ["ANUSVARA|CANDRABINDU"]⟩,
  ⟨0x11D00, "MASARAM GONDI LETTER ", ["A|AA|I|II|U|UU|E"]⟩,
  ⟨0x11D08, "MASARAM GONDI LETTER ", ["AI|O"]⟩,
  ⟨0x11D0B, "MASARAM GONDI LETTER ", [
    "AU|KA|KHA|GA|GHA|NGA|CA|CHA|JA|JHA|NYA|TTA|TTHA|DDA|DDHA|NNA|TA|THA|DA|DHA|NA|PA|PHA|BA|BHA|MA|YA|RA|LA|VA|SHA",
    "SSA|SA|HA|LLA|KSSA|JNYA|TRA"]⟩,
  ⟨0x11D31, "MASARAM GONDI VOWEL SIGN ", ["AA|I|II|U|UU|VOCALIC R"]⟩,
  ⟨0x11D3A, "MASARAM GONDI VOWEL SIGN E", [""]⟩,
  ⟨0x11D3C, "MASARAM GONDI VOWEL SIGN ", ["AI|O"]⟩,
  ⟨0x11D3F, "MASARAM GONDI ", [
    "VOWEL SIGN AU|SIGN ANUSVARA|SIGN VISARGA|SIGN NUKTA|SIGN CANDRA|SIGN HALANTA|VIRAMA|REPHA|RA-KARA"]⟩,
  ⟨0x11D50, "MASARAM GONDI DIGIT ", ["ZERO|ONE|TWO|THREE|FOUR|FIVE|SIX|SEVEN|EIGHT|NINE"]⟩,
  ⟨0x11D60, "GUNJALA GONDI LETTER ", ["A|AA|I|II|U|UU"]⟩,
  ⟨0x11D67, "GUNJALA GONDI LETTER ", ["EE|AI"]⟩,
  ⟨0x11D6A, "GUNJALA GONDI LETTER ", [
    "OO|AU|YA|VA|BA|BHA|MA|KA|KHA|TA|THA|LA|GA|GHA|DA|DHA|NA|CA|CHA|TTA|TTHA|LLA|JA|JHA|DDA|DDHA|NGA|PA|PHA|HA|RA",
    "SA"]⟩,
  ⟨0x11D8A, "GUNJALA GONDI VOWEL SIGN ", ["AA|I|II|U|UU"]⟩,
  ⟨0x11D90, "GUNJALA GONDI VOWEL SIGN ", ["EE|AI"]⟩,
  ⟨0x11D93, "GUNJALA GONDI ", ["VOWEL SIGN OO|VOWEL SIGN AU|SIGN ANUSVARA|SIGN VISARGA|VIRAMA|OM"]⟩,
  ⟨0x11DA0, "GUNJALA GONDI DIGIT ", ["ZERO|ONE|TWO|THREE|FOUR|FIVE|SIX|SEVEN|EIGHT|NINE"]⟩,
  ⟨0x11EE0, "MAKASAR LETTER ", ["KA|GA|NGA|PA|BA|MA|TA|DA|NA|CA|JA|NYA|YA|RA|LA|VA|SA|A"]⟩,
  ⟨0x11EF2, "MAKASAR ", ["ANGKA|VOWEL SIGN I|VOWEL SIGN U|VOWEL SIGN E|VOWEL SIGN O|PASSIMBANG|END OF SECTION"]⟩,
  ⟨0x11FB0, "LISU LETTER YHA", [""]⟩,
  ⟨0x11FC0, "TAMIL FRACTION ", [
    "ONE THREE-HUNDRED-AND-TWENTIETH|ONE ONE-HUNDRED-AND-SIXTIETH|ONE EIGHTIETH|ONE SIXTY-FOURTH|ONE FORTIETH",
    "ONE THIRTY-SECOND|THREE EIGHTIETHS|THREE SIXTY-FOURTHS|ONE TWENTIETH|ONE SIXTEENTH-1|ONE SIXTEENTH-2|ONE TENTH",
    "ONE EIGHTH|THREE TWENTIETHS|THREE SIXTEENTHS|ONE FIFTH|ONE QUARTER|ONE HALF-1|ONE HALF-2|THREE QUARTERS",
    "DOWNSCALING FACTOR KIIZH"]⟩,
  ⟨0x11FD5, "TAMIL SIGN ", [
    "NEL|CEVITU|AAZHAAKKU|UZHAKKU|MUUVUZHAKKU|KURUNI|PATHAKKU|MUKKURUNI|KAACU|PANAM|PON|VARAAKAN|PAARAM|KUZHI|VELI"]⟩,
  ⟨0x11FE4, "TAMIL ", [
    "WET CULTIVATION SIGN|DRY CULTIVATION SIGN|LAND SIGN|SALT PAN SIGN|TRADITIONAL CREDIT SIGN",
    "TRADITIONAL NUMBER SIGN|CURRENT SIGN|AND ODD SIGN|SPENT SIGN|TOTAL SIGN|IN POSSESSION SIGN|STARTING FROM SIGN",
    "SIGN MUTHALIYA|SIGN VAKAIYARAA"]⟩,
  ⟨0x11FFF, "TAMIL PUNCTUATION END OF TEXT", [""]⟩]

/-- From U+12000 to U+15FFF. -/
def from12000 : List NameRun := [
  ⟨0x12000, "CUNEIFORM SIGN ", [
    "A|A TIMES A|A TIMES BAD|A TIMES GAN2 TENU|A TIMES HA|A TIMES IGI|A TIMES LAGAR GUNU|A TIMES MUSH|A TIMES SAG",
    "A2|AB"]⟩,
  ⟨0x1200B, "CUNEIFORM SIGN AB TIMES ", [
    "ASH2|DUN3 GUNU|GAL|GAN2 TENU|HA|IGI GUNU|IMIN|LAGAB|SHESH|U PLUS U PLUS U"]⟩,
  ⟨0x12015, "CUNEIFORM SIGN ", [
    "AB GUNU|AB2|AB2 TIMES BALAG|AB2 TIMES GAN2 TENU|AB2 TIMES ME PLUS EN|AB2 TIMES SHA3|AB2 TIMES TAK4|AD|AK",
    "AK TIMES ERIN2|AK TIMES SHITA PLUS GISH|AL"]⟩,
  ⟨0x12021, "CUNEIFORM SIGN AL TIMES ", ["AL|DIM2|GISH|HA|KAD3|KI|SHE|USH"]⟩,
  ⟨0x12029, "CUNEIFORM SIGN ", [
    "ALAN|ALEPH|AMAR|AMAR TIMES SHE|AN|AN OVER AN|AN THREE TIMES|AN PLUS NAGA OPPOSING AN PLUS NAGA",
    "AN PLUS NAGA SQUARED|ANSHE|APIN|ARAD|ARAD TIMES KUR|ARKAB|ASAL2|ASH|ASH ZIDA TENU|ASH KABA TENU",
    "ASH OVER ASH TUG2 OVER TUG2 TUG2 OVER TUG2 PAP|ASH OVER ASH OVER ASH",
    "ASH OVER ASH OVER ASH CROSSING ASH OVER ASH OVER ASH|ASH2|ASHGAB|BA|BAD|BAG3|BAHAR2|BAL|BAL OVER BAL|BALAG|BAR",
    "BARA2|BI|BI TIMES A|BI TIMES GAR|BI TIMES IGI GUNU|BU|BU OVER BU AB|BU OVER BU UN|BU CROSSING BU|BULUG",
    "BULUG OVER BULUG|BUR|BUR2|DA|DAG"]⟩,
  ⟨0x12057, "CUNEIFORM SIGN DAG KISIM5 TIMES ", [
    "A PLUS MASH|AMAR|BALAG|BI|GA|GA PLUS MASH|GI|GIR2|GUD|HA|IR|IR PLUS LU|KAK|LA|LU|LU PLUS MASH2|LUM|NE",
    "PAP PLUS PAP|SI|TAK4|U2 PLUS GIR2|USH"]⟩,
  ⟨0x1206E, "CUNEIFORM SIGN ", [
    "DAM|DAR|DARA3|DARA4|DI|DIB|DIM|DIM TIMES SHE|DIM2|DIN|DIN KASKAL U GUNU DISH|DISH|DU|DU OVER DU|DU GUNU",
    "DU SHESHIG|DUB|DUB TIMES ESH2|DUB2|DUG|DUGUD|DUH|DUN|DUN3|DUN3 GUNU|DUN3 GUNU GUNU|DUN4|DUR2|E|E TIMES PAP",
    "E OVER E NUN OVER NUN|E2|E2 TIMES A PLUS HA PLUS DA|E2 TIMES GAR|E2 TIMES MI|E2 TIMES SAL|E2 TIMES SHE",
    "E2 TIMES U|EDIN|EGIR|EL|EN|EN TIMES GAN2|EN TIMES GAN2 TENU|EN TIMES ME|EN CROSSING EN|EN OPPOSING EN",
    "EN SQUARED|EREN|ERIN2|ESH2|EZEN"]⟩,
  ⟨0x120A2, "CUNEIFORM SIGN EZEN TIMES ", [
    "A|A PLUS LAL|A PLUS LAL TIMES LAL|AN|BAD|DUN3 GUNU|DUN3 GUNU GUNU|HA|HA GUNU|IGI GUNU|KASKAL|KASKAL SQUARED",
    "KU3|LA|LAL TIMES LAL|LI|LU|U2|UD"]⟩,
  ⟨0x120B5, "CUNEIFORM SIGN ", ["GA|GA GUNU|GA2"]⟩,
  ⟨0x120B8, "CUNEIFORM SIGN GA2 TIMES ", [
    "A PLUS DA PLUS HA|A PLUS HA|A PLUS IGI|AB2 TENU PLUS TAB|AN|ASH|ASH2 PLUS GAL|BAD|BAR PLUS RA|BUR|BUR PLUS RA",
    "DA|DI|DIM TIMES SHE|DUB|EL|EL PLUS LA|EN|EN TIMES GAN2 TENU|GAN2 TENU|GAR|GI|GI4|GI4 PLUS A|GIR2 PLUS SU",
    "HA PLUS LU PLUS ESH2|HAL|HAL PLUS LA|HI PLUS LI|HUB2|IGI GUNU|ISH PLUS HU PLUS ASH|KAK|KASKAL|KID|KID PLUS LAL",
    "KU3 PLUS AN|LA|ME PLUS EN|MI|NUN|NUN OVER NUN|PA|SAL|SAR|SHE|SHE PLUS TUR|SHID|SUM|TAK4|U|UD|UD PLUS DU"]⟩,
  ⟨0x120ED, "CUNEIFORM SIGN ", [
    "GA2 OVER GA2|GABA|GABA CROSSING GABA|GAD|GAD OVER GAD GAR OVER GAR|GAL|GAL GAD OVER GAD GAR OVER GAR|GALAM|GAM",
    "GAN|GAN2|GAN2 TENU|GAN2 OVER GAN2|GAN2 CROSSING GAN2|GAR|GAR3|GASHAN|GESHTIN|GESHTIN TIMES KUR|GI|GI TIMES E",
    "GI TIMES U|GI CROSSING GI|GI4|GI4 OVER GI4|GI4 CROSSING GI4|GIDIM|GIR2|GIR2 GUNU|GIR3|GIR3 TIMES A PLUS IGI",
    "GIR3 TIMES GAN2 TENU|GIR3 TIMES IGI|GIR3 TIMES LU PLUS IGI|GIR3 TIMES PA|GISAL|GISH|GISH CROSSING GISH",
    "GISH TIMES BAD|GISH TIMES TAK4|GISH TENU|GU|GU CROSSING GU|GU2|GU2 TIMES KAK|GU2 TIMES KAK TIMES IGI GUNU",
    "GU2 TIMES NUN|GU2 TIMES SAL PLUS TUG2|GU2 GUNU|GUD|GUD TIMES A PLUS KUR|GUD TIMES KUR|GUD OVER GUD LUGAL|GUL",
    "GUM|GUM TIMES SHE|GUR|GUR7|GURUN|GURUSH|HA|HA TENU|HA GUNU|HAL|HI"]⟩,
  ⟨0x1212E, "CUNEIFORM SIGN HI TIMES ", ["ASH|ASH2|BAD|DISH|GAD|KIN|NUN|SHE|U"]⟩,
  ⟨0x12137, "CUNEIFORM SIGN ", [
    "HU|HUB2|HUB2 TIMES AN|HUB2 TIMES HAL|HUB2 TIMES KASKAL|HUB2 TIMES LISH|HUB2 TIMES UD|HUL2|I|I A|IB|IDIM",
    "IDIM OVER IDIM BUR|IDIM OVER IDIM SQUARED|IG|IGI|IGI DIB|IGI RI|IGI OVER IGI SHIR OVER SHIR UD OVER UD",
    "IGI GUNU|IL|IL TIMES GAN2 TENU|IL2|IM|IM TIMES TAK4|IM CROSSING IM|IM OPPOSING IM|IM SQUARED|IMIN|IN|IR|ISH|KA"]⟩,
  ⟨0x12158, "CUNEIFORM SIGN KA TIMES ", [
    "A|AD|AD PLUS KU3|ASH2|BAD|BALAG|BAR|BI|ERIN2|ESH2|GA|GAL|GAN2 TENU|GAR|GAR PLUS SHA3 PLUS A|GI|GIR2",
    "GISH PLUS SAR|GISH CROSSING GISH|GU|GUR7|IGI|IM|KAK|KI|KID|LI|LU|ME|ME PLUS DU|ME PLUS GI|ME PLUS TE|MI",
    "MI PLUS NUNUZ|NE|NUN|PI|RU|SA|SAR|SHA|SHE|SHID|SHU|SIG|SUHUR|TAR|U|U2|UD|UMUM TIMES PA|USH|ZI"]⟩,
  ⟨0x1218D, "CUNEIFORM SIGN ", [
    "KA2|KA2 CROSSING KA2|KAB|KAD2|KAD3|KAD4|KAD5|KAD5 OVER KAD5|KAK|KAK TIMES IGI GUNU|KAL|KAL TIMES BAD",
    "KAL CROSSING KAL|KAM2|KAM4|KASKAL|KASKAL LAGAB TIMES U OVER LAGAB TIMES U",
    "KASKAL OVER KASKAL LAGAB TIMES U OVER LAGAB TIMES U|KESH2|KI|KI TIMES BAD|KI TIMES U|KI TIMES UD|KID|KIN|KISAL",
    "KISH|KISIM5|KISIM5 OVER KISIM5|KU|KU OVER HI TIMES ASH2 KU OVER HI TIMES ASH2|KU3|KU4|KU4 VARIANT FORM|KU7|KUL",
    "KUL GUNU|KUN|KUR|KUR OPPOSING KUR|KUSHU2|KWU318|LA|LAGAB"]⟩,
  ⟨0x121B9, "CUNEIFORM SIGN LAGAB TIMES ", [
    "A|A PLUS DA PLUS HA|A PLUS GAR|A PLUS LAL|AL|AN|ASH ZIDA TENU|BAD|BI|DAR|EN|GA|GAR|GUD|GUD PLUS GUD|HA|HAL",
    "HI TIMES NUN|IGI GUNU|IM|IM PLUS HA|IM PLUS LU|KI|KIN|KU3|KUL|KUL PLUS HI PLUS A|LAGAB|LISH|LU|LUL|ME",
    "ME PLUS EN|MUSH|NE|SHE PLUS SUM|SHITA PLUS GISH PLUS ERIN2|SHITA PLUS GISH TENU|SHU2|SHU2 PLUS SHU2|SUM|TAG",
    "TAK4|TE PLUS A PLUS SU PLUS NA|U|U PLUS A|U PLUS U PLUS U|U2 PLUS ASH|UD|USH"]⟩,
  ⟨0x121EB, "CUNEIFORM SIGN ", [
    "LAGAB SQUARED|LAGAR|LAGAR TIMES SHE|LAGAR TIMES SHE PLUS SUM|LAGAR GUNU|LAGAR GUNU OVER LAGAR GUNU SHE|LAHSHU",
    "LAL|LAL TIMES LAL|LAM|LAM TIMES KUR|LAM TIMES KUR PLUS RU|LI|LIL|LIMMU2|LISH|LU|LU TIMES BAD|LU2"]⟩,
  ⟨0x121FE, "CUNEIFORM SIGN LU2 TIMES ", [
    "AL|BAD|ESH2|ESH2 TENU|GAN2 TENU|HI TIMES BAD|IM|KAD2|KAD3|KAD3 PLUS ASH|KI|LA PLUS ASH|LAGAB|ME PLUS EN|NE|NU",
    "SI PLUS ASH|SIK2 PLUS BU|TUG2"]⟩,
  ⟨0x12211, "CUNEIFORM SIGN ", [
    "LU2 TENU|LU2 CROSSING LU2|LU2 OPPOSING LU2|LU2 SQUARED|LU2 SHESHIG|LU3|LUGAL|LUGAL OVER LUGAL",
    "LUGAL OPPOSING LUGAL|LUGAL SHESHIG|LUH|LUL|LUM|LUM OVER LUM|LUM OVER LUM GAR OVER GAR|MA|MA TIMES TAK4|MA GUNU",
    "MA2|MAH|MAR|MASH|MASH2|ME|MES|MI|MIN|MU|MU OVER MU|MUG|MUG GUNU|MUNSUB|MURGU2|MUSH|MUSH TIMES A|MUSH TIMES KUR",
    "MUSH TIMES ZA|MUSH OVER MUSH|MUSH OVER MUSH TIMES A PLUS NA|MUSH CROSSING MUSH|MUSH3|MUSH3 TIMES A",
    "MUSH3 TIMES A PLUS DI|MUSH3 TIMES DI|MUSH3 GUNU|NA|NA2|NAGA|NAGA INVERTED|NAGA TIMES SHU TENU",
    "NAGA OPPOSING NAGA|NAGAR|NAM NUTILLU|NAM|NAM2|NE|NE TIMES A|NE TIMES UD|NE SHESHIG|NI|NI TIMES E|NI2|NIM",
    "NIM TIMES GAN2 TENU|NIM TIMES GAR PLUS GAN2 TENU|NINDA2"]⟩,
  ⟨0x12253, "CUNEIFORM SIGN NINDA2 TIMES ", [
    "AN|ASH|ASH PLUS ASH|GUD|ME PLUS GAN2 TENU|NE|NUN|SHE|SHE PLUS A AN|SHE PLUS ASH|SHE PLUS ASH PLUS ASH",
    "U2 PLUS ASH|USH"]⟩,
  ⟨0x12260, "CUNEIFORM SIGN ", ["NISAG|NU|NU11|NUN"]⟩,
  ⟨0x12264, "CUNEIFORM SIGN NUN LAGAR TIMES ", ["GAR|MASH|SAL|SAL OVER NUN LAGAR TIMES SAL|USH"]⟩,
  ⟨0x12269, "CUNEIFORM SIGN ", ["NUN TENU|NUN OVER NUN|NUN CROSSING NUN|NUN CROSSING NUN LAGAR OVER LAGAR|NUNUZ"]⟩,
  ⟨0x1226E, "CUNEIFORM SIGN NUNUZ AB2 TIMES ", ["ASHGAB|BI|DUG|GUD|IGI GUNU|KAD3|LA|NE|SILA3|U2"]⟩,
  ⟨0x12278, "CUNEIFORM SIGN ", ["NUNUZ KISIM5 TIMES BI|NUNUZ KISIM5 TIMES BI U|PA|PAD|PAN|PAP|PESH2|PI"]⟩,
  ⟨0x12280, "CUNEIFORM SIGN PI TIMES ", ["A|AB|BI|BU|E|I|IB|U|U2"]⟩,
  ⟨0x12289, "CUNEIFORM SIGN ", [
    "PI CROSSING PI|PIRIG|PIRIG TIMES KAL|PIRIG TIMES UD|PIRIG TIMES ZA|PIRIG OPPOSING PIRIG|RA|RAB|RI|RU|SA",
    "SAG NUTILLU|SAG"]⟩,
  ⟨0x12296, "CUNEIFORM SIGN SAG TIMES ", ["A|DU|DUB|HA|KAK|KUR|LUM|MI|NUN|SAL|SHID|TAB|U2|UB|UM|UR|USH"]⟩,
  ⟨0x122A7, "CUNEIFORM SIGN ", ["SAG OVER SAG|SAG GUNU|SAL|SAL LAGAB TIMES ASH2|SANGA2|SAR|SHA|SHA3"]⟩,
  ⟨0x122AF, "CUNEIFORM SIGN SHA3 TIMES ", ["A|BAD|GISH|NE|SHU2|TUR|U|U PLUS A"]⟩,
  ⟨0x122B7, "CUNEIFORM SIGN ", [
    "SHA6|SHAB6|SHAR2|SHE|SHE HU|SHE OVER SHE GAD OVER GAD GAR OVER GAR|SHE OVER SHE TAB OVER TAB GAR OVER GAR",
    "SHEG9|SHEN|SHESH|SHESH2|SHESHLAM|SHID|SHID TIMES A|SHID TIMES IM|SHIM"]⟩,
  ⟨0x122C7, "CUNEIFORM SIGN SHIM TIMES ", ["A|BAL|BULUG|DIN|GAR|IGI|IGI GUNU|KUSHU2|LUL|MUG|SAL"]⟩,
  ⟨0x122D2, "CUNEIFORM SIGN ", [
    "SHINIG|SHIR|SHIR TENU|SHIR OVER SHIR BUR OVER BUR|SHITA|SHU|SHU OVER INVERTED SHU|SHU2|SHUBUR|SI|SI GUNU|SIG",
    "SIG4|SIG4 OVER SIG4 SHU2|SIK2|SILA3|SU|SU OVER SU|SUD|SUD2|SUHUR|SUM|SUMASH|SUR|SUR9|TA|TA ASTERISK",
    "TA TIMES HI|TA TIMES MI|TA GUNU|TAB|TAB OVER TAB NI OVER NI DISH OVER DISH|TAB SQUARED|TAG|TAG TIMES BI",
    "TAG TIMES GUD|TAG TIMES SHE|TAG TIMES SHU|TAG TIMES TUG2|TAG TIMES UD|TAK4|TAR|TE|TE GUNU|TI|TI TENU|TIL|TIR",
    "TIR TIMES TAK4|TIR OVER TIR|TIR OVER TIR GAD OVER GAD GAR OVER GAR|TU|TUG2|TUK|TUM|TUR|TUR OVER TUR ZA OVER ZA",
    "U|U GUD|U U U|U OVER U PA OVER PA GAR OVER GAR|U OVER U SUR OVER SUR|U OVER U U REVERSED OVER U REVERSED|U2|UB",
    "UD|UD KUSHU2|UD TIMES BAD|UD TIMES MI|UD TIMES U PLUS U PLUS U|UD TIMES U PLUS U PLUS U GUNU|UD GUNU",
    "UD SHESHIG|UD SHESHIG TIMES BAD|UDUG|UM|UM TIMES LAGAB|UM TIMES ME PLUS DA|UM TIMES SHA3|UM TIMES U|UMBIN|UMUM",
    "UMUM TIMES KASKAL|UMUM TIMES PA|UN|UN GUNU|UR|UR CROSSING UR|UR SHESHIG|UR2"]⟩,
  ⟨0x1232C, "CUNEIFORM SIGN UR2 TIMES ", ["A PLUS HA|A PLUS NA|AL|HA|NUN|U2|U2 PLUS ASH|U2 PLUS BI"]⟩,
  ⟨0x12334, "CUNEIFORM SIGN ", ["UR4|URI|URI3|URU"]⟩,
  ⟨0x12338, "CUNEIFORM SIGN URU TIMES ", [
    "A|ASHGAB|BAR|DUN|GA|GAL|GAN2 TENU|GAR|GU|HA|IGI|IM|ISH|KI|LUM|MIN|PA|SHE|SIG4|TU|U PLUS GUD|UD|URUDA"]⟩,
  ⟨0x1234F, "CUNEIFORM SIGN ", [
    "URUDA|URUDA TIMES U|USH|USH TIMES A|USH TIMES KU|USH TIMES KUR|USH TIMES TAK4|USHX|USH2|USHUMX|UTUKI|UZ3",
    "UZ3 TIMES KASKAL|UZU|ZA|ZA TENU|ZA SQUARED TIMES KUR|ZAG|ZAMX|ZE2|ZI|ZI OVER ZI|ZI3|ZIB|ZIB KABA TENU|ZIG|ZIZ2",
    "ZU|ZU5|ZU5 TIMES A|ZUBUR|ZUM|KAP ELAMITE|AB TIMES NUN|AB2 TIMES A|AMAR TIMES KUG|DAG KISIM5 TIMES U2 PLUS MASH",
    "DAG3|DISH PLUS SHU|DUB TIMES SHE|EZEN TIMES GUD|EZEN TIMES SHE|GA2 TIMES AN PLUS KAK PLUS A|GA2 TIMES ASH2",
    "GE22|GIG|HUSH"]⟩,
  ⟨0x1237E, "CUNEIFORM SIGN KA TIMES ", ["ANSHE|ASH3|GISH|GUD|HI TIMES ASH2|LUM|PA|SHUL|TU|UR2"]⟩,
  ⟨0x12388, "CUNEIFORM SIGN ", [
    "LAGAB TIMES GI|LU2 SHESHIG TIMES BAD|LU2 TIMES ESH2 PLUS LAL|LU2 TIMES SHU|MESH|MUSH3 TIMES ZA|NA4|NIN|NIN9",
    "NINDA2 TIMES BAL|NINDA2 TIMES GI|NU11 ROTATED NINETY DEGREES|PESH2 ASTERISK|PIR2|SAG TIMES IGI GUNU|TI2",
    "UM TIMES ME|U U"]⟩,
  ⟨0x12400, "CUNEIFORM NUMERIC SIGN ", [
    "TWO ASH|THREE ASH|FOUR ASH|FIVE ASH|SIX ASH|SEVEN ASH|EIGHT ASH|NINE ASH|THREE DISH|FOUR DISH|FIVE DISH",
    "SIX DISH|SEVEN DISH|EIGHT DISH|NINE DISH|FOUR U|FIVE U|SIX U|SEVEN U|EIGHT U|NINE U|ONE GESH2|TWO GESH2",
    "THREE GESH2|FOUR GESH2|FIVE GESH2|SIX GESH2|SEVEN GESH2|EIGHT GESH2|NINE GESH2|ONE GESHU|TWO GESHU|THREE GESHU",
    "FOUR GESHU|FIVE GESHU|TWO SHAR2|THREE SHAR2|THREE SHAR2 VARIANT FORM|FOUR SHAR2|FIVE SHAR2|SIX SHAR2",
    "SEVEN SHAR2|EIGHT SHAR2|NINE SHAR2|ONE SHARU|TWO SHARU|THREE SHARU|THREE SHARU VARIANT FORM|FOUR SHARU",
    "FIVE SHARU|SHAR2 TIMES GAL PLUS DISH|SHAR2 TIMES GAL PLUS MIN|ONE BURU|TWO BURU|THREE BURU",
    "THREE BURU VARIANT FORM|FOUR BURU|FIVE BURU|THREE VARIANT FORM ESH16|THREE VARIANT FORM ESH21",
    "FOUR VARIANT FORM LIMMU|FOUR VARIANT FORM LIMMU4|FOUR VARIANT FORM LIMMU A|FOUR VARIANT FORM LIMMU B",
    "SIX VARIANT FORM ASH9|SEVEN VARIANT FORM IMIN3|SEVEN VARIANT FORM IMIN A|SEVEN VARIANT FORM IMIN B",
    "EIGHT VARIANT FORM USSU|EIGHT VARIANT FORM USSU3|NINE VARIANT FORM ILIMMU|NINE VARIANT FORM ILIMMU3",
    "NINE VARIANT FORM ILIMMU4|NINE VARIANT FORM ILIMMU A|TWO ASH TENU|THREE ASH TENU|FOUR ASH TENU|FIVE ASH TENU",
    "SIX ASH TENU|ONE BAN2|TWO BAN2|THREE BAN2|FOUR BAN2|FOUR BAN2 VARIANT FORM|FIVE BAN2|FIVE BAN2 VARIANT FORM",
    "NIGIDAMIN|NIGIDAESH|ONE ESHE3|TWO ESHE3|ONE THIRD DISH|TWO THIRDS DISH|FIVE SIXTHS DISH",
    "ONE THIRD VARIANT FORM A|TWO THIRDS VARIANT FORM A|ONE EIGHTH ASH|ONE QUARTER ASH|OLD ASSYRIAN ONE SIXTH",
    "OLD ASSYRIAN ONE QUARTER|ONE QUARTER GUR|ONE HALF GUR|ELAMITE ONE THIRD|ELAMITE TWO THIRDS|ELAMITE FORTY",
    "ELAMITE FIFTY|FOUR U VARIANT FORM|FIVE U VARIANT FORM|SIX U VARIANT FORM|SEVEN U VARIANT FORM",
    "EIGHT U VARIANT FORM|NINE U VARIANT FORM"]⟩,
  ⟨0x12470, "CUNEIFORM PUNCTUATION SIGN ", [
    "OLD ASSYRIAN WORD DIVIDER|VERTICAL COLON|DIAGONAL COLON|DIAGONAL TRICOLON|DIAGONAL QUADCOLON"]⟩,
  ⟨0x12480, "CUNEIFORM SIGN ", [
    "AB TIMES NUN TENU|AB TIMES SHU2|AD TIMES ESH2|BAD TIMES DISH TENU|BAHAR2 TIMES AB2|BAHAR2 TIMES NI",
    "BAHAR2 TIMES ZA|BU OVER BU TIMES NA2|DA TIMES TAK4|DAG TIMES KUR|DIM TIMES IGI|DIM TIMES U U U|DIM2 TIMES UD"]⟩,
  ⟨0x1248D, "CUNEIFORM SIGN DUG TIMES ", [
    "ANSHE|ASH|ASH AT LEFT|DIN|DUN|ERIN2|GA|GI|GIR2 GUNU|GISH|HA|HI|IGI GUNU|KASKAL|KUR|KUSHU2|KUSHU2 PLUS KASKAL",
    "LAK-020|LAM|LAM TIMES KUR|LUH PLUS GISH|MASH|MES|MI|NI|PI|SHE|SI GUNU"]⟩,
  ⟨0x124A9, "CUNEIFORM SIGN ", ["E2 TIMES KUR|E2 TIMES PAP|ERIN2 X|ESH2 CROSSING ESH2"]⟩,
  ⟨0x124AD, "CUNEIFORM SIGN EZEN SHESHIG TIMES ", ["ASH|HI|IGI GUNU|LA|LAL|ME|MES|SU"]⟩,
  ⟨0x124B5, "CUNEIFORM SIGN EZEN TIMES SU", [""]⟩,
  ⟨0x124B6, "CUNEIFORM SIGN GA2 TIMES ", [
    "BAHAR2|DIM GUNU|DUG TIMES IGI GUNU|DUG TIMES KASKAL|EREN|GA|GAR PLUS DI|GAR PLUS NE|HA PLUS A",
    "KUSHU2 PLUS KASKAL|LAM|LAM TIMES KUR|LUH|MUSH|NE|NE PLUS E2|NE PLUS GI|SHIM|ZIZ2"]⟩,
  ⟨0x124C9, "CUNEIFORM SIGN ", [
    "GABA ROTATED NINETY DEGREES|GESHTIN TIMES U|GISH TIMES GISH CROSSING GISH|GU2 TIMES IGI GUNU",
    "GUD PLUS GISH TIMES TAK4|HA TENU GUNU|HI TIMES ASH OVER HI TIMES ASH|KA TIMES BU|KA TIMES KA|KA TIMES U U U",
    "KA TIMES UR|LAGAB TIMES ZU OVER ZU"]⟩,
  ⟨0x124D5, "CUNEIFORM SIGN LAK-", [
    "003|021|025|030|050|051|062|079 OVER LAK-079 GUNU|080|081 OVER LAK-081|092|130|142|210|219|220|225|228|238|265",
    "266|343|347|348|383|384|390|441|449|449 TIMES GU|449 TIMES IGI|449 TIMES PAP PLUS LU3",
    "449 TIMES PAP PLUS PAP PLUS LU3|449 TIMES U2 PLUS BA|450|457|470|483|490|492|493|495|550|608|617"]⟩,
  ⟨0x12502, "CUNEIFORM SIGN LAK-617 TIMES ", ["ASH|BAD|DUN3 GUNU GUNU|KU3|LA|TAR|TE|U2|UD|URUDA"]⟩,
  ⟨0x1250C, "CUNEIFORM SIGN LAK-", ["636|648"]⟩,
  ⟨0x1250E, "CUNEIFORM SIGN LAK-648 TIMES ", ["DUB|GA|IGI|IGI GUNU|NI|PAP PLUS PAP PLUS LU3|SHESH PLUS KI|UD|URUDA"]⟩,
  ⟨0x12517, "CUNEIFORM SIGN ", [
    "LAK-724|LAK-749|LU2 GUNU TIMES ASH|LU2 TIMES DISH|LU2 TIMES HAL|LU2 TIMES PAP|LU2 TIMES PAP PLUS PAP PLUS LU3",
    "LU2 TIMES TAK4|MI PLUS ZA7|MUSH OVER MUSH TIMES GA|MUSH OVER MUSH TIMES KAK"]⟩,
  ⟨0x12522, "CUNEIFORM SIGN NINDA2 TIMES ", [
    "DIM GUNU|GISH|GUL|HI|KESH2|LAK-050|MASH|PAP PLUS PAP|U|U PLUS U|URUDA"]⟩,
  ⟨0x1252D, "CUNEIFORM SIGN ", [
    "SAG GUNU TIMES HA|SAG TIMES EN|SAG TIMES SHE AT LEFT|SAG TIMES TAK4|SHA6 TENU|SHE OVER SHE|SHE PLUS HUB2",
    "SHE PLUS NAM2|SHE PLUS SAR|SHU2 PLUS DUG TIMES NI|SHU2 PLUS E2 TIMES AN|SI TIMES TAK4|TAK4 PLUS SAG",
    "TUM TIMES GAN2 TENU|TUM TIMES THREE DISH|UR2 INVERTED|UR2 TIMES UD|URU TIMES DARA3|URU TIMES LAK-668",
    "URU TIMES LU3|ZA7|ZU OVER ZU PLUS SAR|ZU5 TIMES THREE DISH TENU"]⟩,
  ⟨0x12F90, "CYPRO-MINOAN SIGN ", [
    "CM001|CM002|CM004|CM005|CM006|CM007|CM008|CM009|CM010|CM011|CM012|CM012B|CM013|CM015|CM017|CM019|CM021|CM023",
    "CM024|CM025|CM026|CM027|CM028|CM029|CM030|CM033|CM034|CM035|CM036|CM037|CM038|CM039|CM040|CM041|CM044|CM046",
    "CM047|CM049|CM050|CM051|CM052|CM053|CM054|CM055|CM056|CM058|CM059|CM060|CM061|CM062|CM063|CM064|CM066|CM067",
    "CM068|CM069|CM070|CM071|CM072|CM073|CM074|CM075|CM075B|CM076|CM078|CM079|CM080|CM081|CM082|CM083|CM084|CM085",
    "CM086|CM087|CM088|CM089|CM090|CM091|CM092|CM094|CM095|CM096|CM097|CM098|CM099|CM100|CM101|CM102|CM103|CM104",
    "CM105|CM107|CM108|CM109|CM110|CM112|CM114|CM301|CM302"]⟩,
  ⟨0x13000, "EGYPTIAN HIEROGLYPH ", [
    "A001|A002|A003|A004|A005|A005A|A006|A006A|A006B|A007|A008|A009|A010|A011|A012|A013|A014|A014A|A015|A016|A017",
    "A017A|A018|A019|A020|A021|A022|A023|A024|A025|A026|A027|A028|A029|A030|A031|A032|A032A|A033|A034|A035|A036",
    "A037|A038|A039|A040|A040A|A041|A042|A042A|A043|A043A|A044|A045|A045A|A046|A047|A048|A049|A050|A051|A052|A053",
    "A054|A055|A056|A057|A058|A059|A060|A061|A062|A063|A064|A065|A066|A067|A068|A069|A070|B001|B002|B003|B004|B005",
    "B005A|B006|B007|B008|B009|C001|C002|C002A|C002B|C002C|C003|C004|C005|C006|C007|C008|C009|C010|C010A|C011|C012",
    "C013|C014|C015|C016|C017|C018|C019|C020|C021|C022|C023|C024|D001|D002|D003|D004|D005|D006|D007|D008|D008A|D009",
    "D010|D011|D012|D013|D014|D015|D016|D017|D018|D019|D020|D021|D022|D023|D024|D025|D026|D027|D027A|D028|D029|D030",
    "D031|D031A|D032|D033|D034|D034A|D035|D036|D037|D038|D039|D040|D041|D042|D043|D044|D045|D046|D046A|D047|D048",
    "D048A|D049|D050|D050A|D050B|D050C|D050D|D050E|D050F|D050G|D050H|D050I|D051|D052|D052A|D053|D054|D054A|D055",
    "D056|D057|D058|D059|D060|D061|D062|D063|D064|D065|D066|D067|D067A|D067B|D067C|D067D|D067E|D067F|D067G|D067H",
    "E001|E002|E003|E004|E005|E006|E007|E008|E008A|E009|E009A|E010|E011|E012|E013|E014|E015|E016|E016A|E017|E017A",
    "E018|E019|E020|E020A|E021|E022|E023|E024|E025|E026|E027|E028|E028A|E029|E030|E031|E032|E033|E034|E034A|E036",
    "E037|E038|F001|F001A|F002|F003|F004|F005|F006|F007|F008|F009|F010|F011|F012|F013|F013A|F014|F015|F016|F017",
    "F018|F019|F020|F021|F021A|F022|F023|F024|F025|F026|F027|F028|F029|F030|F031|F031A|F032|F033|F034|F035|F036",
    "F037|F037A|F038|F038A|F039|F040|F041|F042|F043|F044|F045|F045A|F046|F046A|F047|F047A|F048|F049|F050|F051|F051A",
    "F051B|F051C|F052|F053|G001|G002|G003|G004|G005|G006|G006A|G007|G007A|G007B|G008|G009|G010|G011|G011A|G012|G013",
    "G014|G015|G016|G017|G018|G019|G020|G020A|G021|G022|G023|G024|G025|G026|G026A|G027|G028|G029|G030|G031|G032",
    "G033|G034|G035|G036|G036A|G037|G037A|G038|G039|G040|G041|G042|G043|G043A|G044|G045|G045A|G046|G047|G048|G049",
    "G050|G051|G052|G053|G054|H001|H002|H003|H004|H005|H006|H006A|H007|H008|I001|I002|I003|I004|I005|I005A|I006",
    "I007|I008"]⟩,
  ⟨0x13191, "EGYPTIAN HIEROGLYPH ", [
    "I009|I009A|I010|I010A|I011|I011A|I012|I013|I014|I015|K001|K002|K003|K004|K005|K006|K007|K008|L001|L002|L002A",
    "L003|L004|L005|L006|L006A|L007|L008|M001|M001A|M001B|M002|M003|M003A|M004|M005|M006|M007|M008|M009|M010|M010A",
    "M011|M012|M012A|M012B|M012C|M012D|M012E|M012F|M012G|M012H|M013|M014|M015|M015A|M016|M016A|M017|M017A|M018|M019",
    "M020|M021|M022|M022A|M023|M024|M024A|M025|M026|M027|M028|M028A|M029|M030|M031|M031A|M032|M033|M033A|M033B|M034",
    "M035|M036|M037|M038|M039|M040|M040A|M041|M042|M043|M044|N001|N002|N003|N004|N005|N006|N007|N008|N009|N010|N011",
    "N012|N013|N014|N015|N016|N017|N018|N018A|N018B|N019|N020|N021|N022|N023|N024|N025|N025A|N026|N027|N028|N029",
    "N030|N031|N032|N033|N033A|N034|N034A|N035|N035A|N036|N037|N037A|N038|N039|N040|N041|N042|NL001|NL002|NL003",
    "NL004|NL005|NL005A|NL006|NL007|NL008|NL009|NL010|NL011|NL012|NL013|NL014|NL015|NL016|NL017|NL017A|NL018|NL019",
    "NL020|NU001|NU002|NU003|NU004|NU005|NU006|NU007|NU008|NU009|NU010|NU010A|NU011|NU011A|NU012|NU013|NU014|NU015",
    "NU016|NU017|NU018|NU018A|NU019|NU020|NU021|NU022|NU022A|O001|O001A|O002|O003|O004|O005|O005A|O006|O006A|O006B",
    "O006C|O006D|O006E|O006F|O007|O008|O009|O010|O010A|O010B|O010C|O011|O012|O013|O014|O015|O016|O017|O018|O019",
    "O019A|O020|O020A|O021|O022|O023|O024|O024A|O025|O025A|O026|O027|O028|O029|O029A|O030|O030A|O031|O032|O033",
    "O033A|O034|O035|O036|O036A|O036B|O036C|O036D|O037|O038|O039|O040|O041|O042|O043|O044|O045|O046|O047|O048|O049",
    "O050|O050A|O050B|O051|P001|P001A|P002|P003|P003A|P004|P005|P006|P007|P008|P009|P010|P011|Q001|Q002|Q003|Q004",
    "Q005|Q006|Q007|R001|R002|R002A|R003|R003A|R003B|R004|R005|R006|R007|R008|R009|R010|R010A|R011|R012|R013|R014",
    "R015|R016|R016A|R017|R018|R019|R020|R021|R022|R023|R024|R025|R026|R027|R028|R029|S001|S002|S002A|S003|S004",
    "S005|S006|S006A|S007|S008|S009|S010|S011|S012|S013|S014|S014A|S014B|S015|S016|S017|S017A|S018|S019|S020|S021",
    "S022|S023|S024|S025|S026|S026A|S026B|S027|S028|S029|S030|S031|S032|S033|S034|S035|S035A|S036|S037|S038|S039",
    "S040|S041|S042|S043|S044|S045|S046|T001|T002|T003|T003A|T004|T005|T006|T007|T007A|T008|T008A|T009|T009A|T010",
    "T011|T011A|T012|T013|T014|T015|T016|T016A|T017|T018|T019|T020|T021"]⟩,
  ⟨0x13322, "EGYPTIAN HIEROGLYPH ", [
    "T022|T023|T024|T025|T026|T027|T028|T029|T030|T031|T032|T032A|T033|T033A|T034|T035|T036|U001|U002|U003|U004",
    "U005|U006|U006A|U006B|U007|U008|U009|U010|U011|U012|U013|U014|U015|U016|U017|U018|U019|U020|U021|U022|U023",
    "U023A|U024|U025|U026|U027|U028|U029|U029A|U030|U031|U032|U032A|U033|U034|U035|U036|U037|U038|U039|U040|U041",
    "U042|V001|V001A|V001B|V001C|V001D|V001E|V001F|V001G|V001H|V001I|V002|V002A|V003|V004|V005|V006|V007|V007A",
    "V007B|V008|V009|V010|V011|V011A|V011B|V011C|V012|V012A|V012B|V013|V014|V015|V016|V017|V018|V019|V020|V020A",
    "V020B|V020C|V020D|V020E|V020F|V020G|V020H|V020I|V020J|V020K|V020L|V021|V022|V023|V023A|V024|V025|V026|V027",
    "V028|V028A|V029|V029A|V030|V030A|V031|V031A|V032|V033|V033A|V034|V035|V036|V037|V037A|V038|V039|V040|V040A",
    "W001|W002|W003|W003A|W004|W005|W006|W007|W008|W009|W009A|W010|W010A|W011|W012|W013|W014|W014A|W015|W016|W017",
    "W017A|W018|W018A|W019|W020|W021|W022|W023|W024|W024A|W025|X001|X002|X003|X004|X004A|X004B|X005|X006|X006A|X007",
    "X008|X008A|Y001|Y001A|Y002|Y003|Y004|Y005|Y006|Y007|Y008|Z001|Z002|Z002A|Z002B|Z002C|Z002D|Z003|Z003A|Z003B",
    "Z004|Z004A|Z005|Z005A|Z006|Z007|Z008|Z009|Z010|Z011|Z012|Z013|Z014|Z015|Z015A|Z015B|Z015C|Z015D|Z015E|Z015F",
    "Z015G|Z015H|Z015I|Z016|Z016A|Z016B|Z016C|Z016D|Z016E|Z016F|Z016G|Z016H|AA001|AA002|AA003|AA004|AA005|AA006",
    "AA007|AA007A|AA007B|AA008|AA009|AA010|AA011|AA012|AA013|AA014|AA015|AA016|AA017|AA018|AA019|AA020|AA021|AA022",
    "AA023|AA024|AA025|AA026|AA027|AA028|AA029|AA030|AA031|AA032"]⟩,
  ⟨0x13430, "EGYPTIAN HIEROGLYPH ", [
    "VERTICAL JOINER|HORIZONTAL JOINER|INSERT AT TOP START|INSERT AT BOTTOM START|INSERT AT TOP END",
    "INSERT AT BOTTOM END|OVERLAY MIDDLE|BEGIN SEGMENT|END SEGMENT"]⟩,
  ⟨0x14400, "ANATOLIAN HIEROGLYPH ", [
    "A001|A002|A003|A004|A005|A006|A007|A008|A009|A010|A010A|A011|A012|A013|A014|A015|A016|A017|A018|A019|A020|A021",
    "A022|A023|A024|A025|A026|A026A|A027|A028|A029|A030|A031|A032|A033|A034|A035|A036|A037|A038|A039|A039A|A040",
    "A041|A041A|A042|A043|A044|A045|A045A|A046|A046A|A046B|A047|A048|A049|A050|A051|A052|A053|A054|A055|A056|A057",
    "A058|A059|A060|A061|A062|A063|A064|A065|A066|A066A|A066B|A066C|A067|A068|A069|A070|A071|A072|A073|A074|A075",
    "A076|A077|A078|A079|A080|A081|A082|A083|A084|A085|A086|A087|A088|A089|A090|A091|A092|A093|A094|A095|A096|A097",
    "A097A|A098|A098A|A099|A100|A100A|A101|A101A|A102|A102A|A103|A104|A104A|A104B|A104C|A105|A105A|A105B|A106|A107",
    "A107A|A107B|A107C|A108|A109|A110|A110A|A110B|A111|A112|A113|A114|A115|A115A|A116|A117|A118|A119|A120|A121|A122",
    "A123|A124|A125|A125A|A126|A127|A128|A129|A130|A131|A132|A133|A134|A135|A135A|A136|A137|A138|A139|A140|A141",
    "A142|A143|A144|A145|A146|A147|A148|A149|A150|A151|A152|A153|A154|A155|A156|A157|A158|A159|A160|A161|A162|A163",
    "A164|A165|A166|A167|A168|A169|A170|A171|A172|A173|A174|A175|A176|A177|A178|A179|A180|A181|A182|A183|A184|A185",
    "A186|A187|A188|A189|A190|A191|A192|A193|A194|A195|A196|A197|A198|A199|A200|A201|A202|A202A|A202B|A203|A204",
    "A205|A206|A207|A207A|A208|A209|A209A|A210|A211|A212|A213|A214|A215|A215A|A216|A216A|A217|A218|A219|A220|A221",
    "A222|A223|A224|A225|A226|A227|A227A|A228|A229|A230|A231|A232|A233|A234|A235|A236|A237|A238|A239|A240|A241|A242",
    "A243|A244|A245|A246|A247|A248|A249|A250|A251|A252|A253|A254|A255|A256|A257|A258|A259|A260|A261|A262|A263|A264",
    "A265|A266|A267|A267A|A268|A269|A270|A271|A272|A273|A274|A275|A276|A277|A278|A279|A280|A281|A282|A283|A284|A285",
    "A286|A287|A288|A289|A289A|A290|A291|A292|A293|A294|A294A|A295|A296|A297|A298|A299|A299A|A300|A301|A302|A303",
    "A304|A305|A306|A307|A308|A309|A309A|A310|A311|A312|A313|A314|A315|A316|A317|A318|A319|A320|A321|A322|A323|A324",
    "A325|A326|A327|A328|A329|A329A|A330|A331|A332A|A332B|A332C|A333|A334|A335|A336|A336A|A336B|A336C|A337|A338",
    "A339|A340|A341|A342|A343|A344|A345|A346|A347|A348|A349|A350|A351|A352|A353|A354|A355"]⟩,
  ⟨0x14591, "ANATOLIAN HIEROGLYPH ", [
    "A356|A357|A358|A359|A359A|A360|A361|A362|A363|A364|A364A|A365|A366|A367|A368|A368A|A369|A370|A371|A371A|A372",
    "A373|A374|A375|A376|A377|A378|A379|A380|A381|A381A|A382|A383 RA OR RI|A383A|A384|A385|A386|A386A|A387|A388",
    "A389|A390|A391|A392|A393 EIGHT|A394|A395|A396|A397|A398|A399|A400|A401|A402|A403|A404|A405|A406|A407|A408|A409",
    "A410 BEGIN LOGOGRAM MARK|A410A END LOGOGRAM MARK|A411|A412|A413|A414|A415|A416|A417|A418|A419|A420|A421|A422",
    "A423|A424|A425|A426|A427|A428|A429|A430|A431|A432|A433|A434|A435|A436|A437|A438|A439|A440|A441|A442|A443|A444",
    "A445|A446|A447|A448|A449|A450|A450A|A451|A452|A453|A454|A455|A456|A457|A457A|A458|A459|A460|A461|A462|A463",
    "A464|A465|A466|A467|A468|A469|A470|A471|A472|A473|A474|A475|A476|A477|A478|A479|A480|A481|A482|A483|A484|A485",
    "A486|A487|A488|A489|A490|A491|A492|A493|A494|A495|A496|A497|A501|A502|A503|A504|A505|A506|A507|A508|A509|A510",
    "A511|A512|A513|A514|A515|A516|A517|A518|A519|A520|A521|A522|A523|A524|A525|A526|A527|A528|A529|A530"]⟩]

/-- From U+16000 to U+1CFFF. -/
def from16000 : List NameRun := [
  ⟨0x16800, "BAMUM LETTER PHASE-A ", [
    "NGKUE MFON|GBIEE FON|PON MFON PIPAEMGBIEE|PON MFON PIPAEMBA|NAA MFON|SHUENSHUET|TITA MFON|NZA MFON",
    "SHINDA PA NJI|PON PA NJI PIPAEMGBIEE|PON PA NJI PIPAEMBA|MAEMBGBIEE|TU MAEMBA|NGANGU|MAEMVEUX|MANSUAE",
    "MVEUAENGAM|SEUNYAM|NTOQPEN|KEUKEUTNDA|NKINDI|SUU|NGKUENZEUM|LAPAQ|LET KUT|NTAP MFAA|MAEKEUP|PASHAE|GHEUAERAE",
    "PAMSHAE|MON NGGEUAET|NZUN MEUT|U YUQ NAE|GHEUAEGHEUAE|NTAP NTAA|SISA|MGBASA|MEUNJOMNDEUQ|MOOMPUQ|KAFA",
    "PA LEERAEWA|NDA LEERAEWA|PET|MAEMKPEN|NIKA|PUP|TUAEP|LUAEP|SONJAM|TEUTEUWEN|MAENYI|KET|NDAANGGEUAET|KUOQ",
    "MOOMEUT|SHUM|LOMMAE|FIRI|ROM|KPOQ|SOQ|MAP PIEET|SHIRAE|NTAP|SHOQ NSHUT YUM|NYIT MONGKEUAEQ|PAARAE|NKAARAE",
    "UNKNOWN|NGGEN|MAESI|NJAM|MBANYI|NYET|TEUAEN|SOT|PAAM|NSHIEE|MAEM|NYI|KAQ|NSHA|VEE|LU|NEN|NAQ|MBAQ"]⟩,
  ⟨0x16857, "BAMUM LETTER PHASE-B ", [
    "NSHUET|TU MAEMGBIEE|SIEE|SET TU|LOM NTEUM|MBA MAELEE|KIEEM|YEURAE|MBAARAE|KAM|PEESHI|YAFU LEERAEWA",
    "LAM NSHUT NYAM|NTIEE SHEUOQ|NDU NJAA|GHEUGHEUAEM|PIT|TU NSIEE|SHET NJAQ|SHEUAEQTU|MFON TEUAEQ|MBIT MBAAKET",
    "NYI NTEUM|KEUPUQ|GHEUGHEN|KEUYEUX|LAANAE|PARUM|VEUM|NGKINDI MVOP|NGGEU MBU|WUAET|SAKEUAE|TAAM|MEUQ|NGGUOQ",
    "NGGUOQ LARGE|MFIYAQ|SUE|MBEURI|MONTIEEN|NYAEMAE|PUNGAAM|MEUT NGGEET|FEUX|MBUOQ|FEE|KEUAEM|MA NJEUAENA|MA NJUQA",
    "LET|NGGAAM|NSEN|MA|KIQ|NGOM"]⟩,
  ⟨0x1688F, "BAMUM LETTER PHASE-C ", [
    "NGKUE MAEMBA|NZA|YUM|WANGKUOQ|NGGEN|NDEUAEREE|NGKAQ|GHARAE|MBEEKEET|GBAYI|NYIR MKPARAQ MEUN|NTU MBIT|MBEUM",
    "PIRIEEN|NDOMBU|MBAA CABBAGE-TREE|KEUSHEUAEP|GHAP|KEUKAQ|YU MUOMAE|NZEUM|MBUE|NSEUAEN|MBIT|YEUQ|KPARAQ|KAA|SEUX",
    "NDIDA|TAASHAE|NJUEQ|TITA YUE|SUAET|NGGUAEN NYAM|VEUX|NANSANAQ|MA KEUAERI|NTAA|NGGUON|LAP|MBIRIEEN|MGBASAQ",
    "NTEUNGBA|TEUTEUX|NGGUM|FUE|NDEUT|NSA|NSHAQ|BUNG|VEUAEPEN|MBERAE|RU|NJAEM|LAM|TITUAEP|NSUOT NGOM|NJEEEE|KET",
    "NGGU|MAESI|MBUAEM|LU|KUT|NJAM|NGOM|WUP|NGGUEET|NSOM|NTEN|KUOP NKAARAE|NSUN|NDAM|MA NSIEE|YAA|NDAP|SHUEQ|SETFON",
    "MBI|MAEMBA|MBANYI|KEUSEUX|MBEUX|KEUM|MBAA PICKET|YUWOQ|NJEUX|MIEE|MUAE|SHIQ|KEN LAW|KEN FATIGUE|NGAQ|NAQ|LIQ",
    "PIN|PEN|TET"]⟩,
  ⟨0x168F1, "BAMUM LETTER PHASE-D ", [
    "MBUO|WAP|NJI|MFON|NJIEE|LIEE|NJEUT|NSHEE|NGGAAMAE|NYAM|WUAEN|NGKUN|SHEE|NGKAP|KEUAETMEUN|TEUT|SHEUAE|NJAP|SUE",
    "KET|YAEMMAE|KUOM|SAP|MFEUT|NDEUX|MALEERI|MEUT|SEUAEQ|YEN|NJEUAEM|KEUOT MBUAE|NGKEURI|TU|GHAA|NGKYEE|FEUFEUAET",
    "NDEE|MGBOFUM|LEUAEP|NDON|MONI|MGBEUN|PUUT|MGBIEE|MFO|LUM|NSIEEP|MBAA|KWAET|NYET|TEUAEN|SOT|YUWOQ|KEUM|RAEM",
    "TEEEE|NGKEUAEQ|MFEUAE|NSIEET|KEUP|PIP|PEUTAE|NYUE|LET|NGGAAM|MFIEE|NGGWAEN|YUOM|PAP|YUOP|NDAM|NTEUM|SUAE|KUN",
    "NGGEUX|NGKIEE|TUOT|MEUN|KUQ|NSUM|TEUN|MAENJET|NGGAP|LEUM|NGGUOM|NSHUT|NJUEQ|GHEUAE|KU|REN OLD|TAE|TOQ|NYI|RII",
    "LEEEE|MEEEE|M|SUU|MU|SHII|SHEUX|KYEE|NU|SHU|NTEE|PEE|NI|SHOQ|PUQ|MVOP|LOQ|REN MUCH|TI|NTUU|MBAA SEVEN|SAQ|FAA"]⟩,
  ⟨0x16966, "BAMUM LETTER PHASE-E ", [
    "NDAP|TOON|MBEUM|LAP|VOM|LOON|PAA|SOM|RAQ|NSHUOP|NDUN|PUAE|TAM|NGKA|KPEUX|WUO|SEE|NGGEUAET|PAAM|TOO|KUOP|LOM",
    "NSHIEE|NGOP|MAEM|NGKEUX|NGOQ|NSHUE|RIMGBA|NJEUX|PEEM|SAA|NGGURAE|MGBA|GHEUX|NGKEUAEM|NJAEMLI|MAP|LOOT|NGGEEEE",
    "NDIQ|TAEN NTEUM|SET|PUM|NDAA SOFTNESS|NGGUAESHAE NYAM|YIEE|GHEUN|TUAE|YEUAE|PO|TUMAE|KEUAE|SUAEN|TEUAEQ|VEUAE",
    "WEUX|LAAM|PU|TAAQ|GHAAMAE|NGEUREUT|SHEUAEQ|MGBEN|MBEE|NZAQ|NKOM|GBET|TUM|KUET|YAP|NYI CLEAVER|YIT|MFEUQ|NDIAQ",
    "PIEEQ|YUEQ|LEUAEM|FUE|GBEUX|NGKUP|KET|MAE|NGKAAMI|GHET|FA|NTUM|PEUT|YEUM|NGGEUAE|NYI BETWEEN|NZUQ|POON|MIEE",
    "FUET|NAE|MUAE|GHEUAE|FU I|MVI|PUAQ|NGKUM|KUT|PIET|NTAP|YEUAET|NGGUP|PA PEOPLE|FU CALL|FOM|NJEE|A|TOQ|O|I|LAQ",
    "PA PLURAL|TAA|TAQ|NDAA MY HOUSE|SHIQ|YEUX|NGUAE|YUAEN|YOQ SWIMMING|YOQ COVER|YUQ|YUN|KEUX|PEUX|NJEE EPOCH|PUE",
    "WUE|FEE|VEE|LU|MI|REUX|RAE|NGUAET|NGA|SHO|SHOQ|FU REMEDY|NA|PI|LOQ|KO|MEN|MA|MAQ|TEU|KI|MON|TEN|FAQ|GHOM"]⟩,
  ⟨0x16A03, "BAMUM LETTER PHASE-F ", [
    "KA|U|KU|EE|REE|TAE|NYI|LA|RII|RIEE|MEEEE|TAA|NDAA|NJAEM|M|SUU|SHII|SI|SEUX|KYEE|KET|NUAE|NU|NJUAE|YOQ|SHU|YA",
    "NSHA|PEUX|NTEE|WUE|PEE|RU|NI|REUX|KEN|NGKWAEN|NGGA|SHO|PUAE|FOM|WA|LI|LOQ|KO|MBEN|REN|MA|MO|MBAA|TET|KPA|SAMBA",
    "VUEQ"]⟩,
  ⟨0x16A40, "MRO LETTER ", [
    "TA|NGI|YO|MIM|BA|DA|A|PHI|KHAI|HAO|DAI|CHU|KEAAE|OL|MAEM|NIN|PA|OO|O|RO|SHI|THEA|EA|WA|E|KO|LAN|LA|HAI|RI|TEK"]⟩,
  ⟨0x16A60, "MRO DIGIT ", ["ZERO|ONE|TWO|THREE|FOUR|FIVE|SIX|SEVEN|EIGHT|NINE"]⟩,
  ⟨0x16A6E, "MRO ", ["DANDA|DOUBLE DANDA"]⟩,
  ⟨0x16A70, "TANGSA LETTER ", [
    "OZ|OC|OQ|OX|AZ|AC|AQ|AX|VZ|VC|VQ|VX|EZ|EC|EQ|EX|IZ|IC|IQ|IX|UZ|UC|UQ|UX|AWZ|AWC|AWQ|AWX|UIZ|UIC|UIQ|UIX",
    "FINAL NG|LONG UEX|SHORT UEZ|SHORT AWX|UEC|UEZ|UEQ|UEX|UIUZ|UIUC|UIUQ|UIUX|MZ|MC|MQ|MX|KA|KHA|GA|NGA|SA|YA|WA",
    "PA|NYA|PHA|BA|MA|NA|HA|LA|HTA|TA|DA|RA|NHA|SHA|CA|TSA|GHA|HTTA|THA|XA|FA|DHA|CHA|ZA"]⟩,
  ⟨0x16AC0, "TANGSA DIGIT ", ["ZERO|ONE|TWO|THREE|FOUR|FIVE|SIX|SEVEN|EIGHT|NINE"]⟩,
  ⟨0x16AD0, "BASSA VAH LETTER ", [
    "ENNI|KA|SE|FA|MBE|YIE|GAH|DHII|KPAH|JO|HWAH|WA|ZO|GBU|DO|CE|UWU|TO|BA|VU|YEIN|PA|WADDA|A|O|OO|U|EE|E|I"]⟩,
  ⟨0x16AF0, "BASSA VAH COMBINING ", ["HIGH TONE|LOW TONE|MID TONE|LOW-MID TONE|HIGH-LOW TONE"]⟩,
  ⟨0x16AF5, "BASSA VAH FULL STOP", [""]⟩,
  ⟨0x16B00, "PAHAWH HMONG VOWEL ", [
    "KEEB|KEEV|KIB|KIV|KAUB|KAUV|KUB|KUV|KEB|KEV|KAIB|KAIV|KOOB|KOOV|KAWB|KAWV|KUAB|KUAV|KOB|KOV|KIAB|KIAV|KAB|KAV",
    "KWB|KWV|KAAB|KAAV"]⟩,
  ⟨0x16B1C, "PAHAWH HMONG CONSONANT ", [
    "VAU|NTSAU|LAU|HAU|NLAU|RAU|NKAU|QHAU|YAU|HLAU|MAU|CHAU|NCHAU|HNAU|PLHAU|NTHAU|NAU|AU|XAU|CAU"]⟩,
  ⟨0x16B30, "PAHAWH HMONG MARK CIM ", ["TUB|SO|KES|KHAV|SUAM|HOM|TAUM"]⟩,
  ⟨0x16B37, "PAHAWH HMONG SIGN ", [
    "VOS THOM|VOS TSHAB CEEB|CIM CHEEM|VOS THIAB|VOS FEEM|XYEEM NTXIV|XYEEM RHO|XYEEM TOV|XYEEM FAIB|VOS SEEV",
    "MEEJ SUAB|VOS NRUA|IB YAM|XAUS|CIM TSOV ROG"]⟩,
  ⟨0x16B50, "PAHAWH HMONG DIGIT ", ["ZERO|ONE|TWO|THREE|FOUR|FIVE|SIX|SEVEN|EIGHT|NINE"]⟩,
  ⟨0x16B5B, "PAHAWH HMONG NUMBER ", ["TENS|HUNDREDS|TEN THOUSANDS|MILLIONS|HUNDRED MILLIONS|TEN BILLIONS|TRILLIONS"]⟩,
  ⟨0x16B63, "PAHAWH HMONG SIGN ", [
    "VOS LUB|XYOO|HLI|THIRD-STAGE HLI|ZWJ THAJ|HNUB|NQIG|XIAB|NTUJ|AV|TXHEEJ CEEV|MEEJ TSEEB|TAU|LOS|MUS",
    "CIM HAIS LUS NTOG NTOG|CIM CUAM TSHOOJ|CIM TXWV|CIM TXWV CHWV|CIM PUB DAWB|CIM NRES TOS"]⟩,
  ⟨0x16B7D, "PAHAWH HMONG CLAN SIGN ", [
    "TSHEEJ|YEEG|LIS|LAUJ|XYOOJ|KOO|HAWJ|MUAS|THOJ|TSAB|PHAB|KHAB|HAM|VAJ|FAJ|YAJ|TSWB|KWM|VWJ"]⟩,
  ⟨0x16E40, "MEDEFAIDRIN CAPITAL LETTER ", [
    "M|S|V|W|ATIU|Z|KP|P|T|G|F|I|K|A|J|E|B|C|U|YU|L|Q|HP|NY|X|D|OE|N|R|O|AI|Y"]⟩,
  ⟨0x16E60, "MEDEFAIDRIN SMALL LETTER ", [
    "M|S|V|W|ATIU|Z|KP|P|T|G|F|I|K|A|J|E|B|C|U|YU|L|Q|HP|NY|X|D|OE|N|R|O|AI|Y"]⟩,
  ⟨0x16E80, "MEDEFAIDRIN DIGIT ", ["ZERO|ONE|TWO|THREE|FOUR|FIVE|SIX|SEVEN|EIGHT|NINE"]⟩,
  ⟨0x16E8A, "MEDEFAIDRIN NUMBER ", [
    "TEN|ELEVEN|TWELVE|THIRTEEN|FOURTEEN|FIFTEEN|SIXTEEN|SEVENTEEN|EIGHTEEN|NINETEEN"]⟩,
  ⟨0x16E94, "MEDEFAIDRIN ", [
    "DIGIT ONE ALTERNATE FORM|DIGIT TWO ALTERNATE FORM|DIGIT THREE ALTERNATE FORM|COMMA|FULL STOP|SYMBOL AIVA",
    "EXCLAMATION OH"]⟩,
  ⟨0x16F00, "MIAO LETTER ", [
    "PA|BA|YI PA|PLA|MA|MHA|ARCHAIC MA|FA|VA|VFA|TA|DA|YI TTA|YI TA|TTA|DDA|NA|NHA|YI NNA|ARCHAIC NA|NNA|NNHA|LA",
    "LYA|LHA|LHYA|TLHA|DLHA|TLHYA|DLHYA|KA|GA|YI KA|QA|QGA|NGA|NGHA|ARCHAIC NGA|HA|XA|GHA|GHHA|TSSA|DZZA|NYA|NYHA",
    "TSHA|DZHA|YI TSHA|YI DZHA|REFORMED TSHA|SHA|SSA|ZHA|ZSHA|TSA|DZA|YI TSA|SA|ZA|ZSA|ZZA|ZZSA|ARCHAIC ZZA|ZZYA",
    "ZZSYA|WA|AH|HHA|BRI|SYI|DZYI|TE|TSE|RTE"]⟩,
  ⟨0x16F4F, "MIAO ", [
    "SIGN CONSONANT MODIFIER BAR|LETTER NASALIZATION|SIGN ASPIRATION|SIGN REFORMED VOICING|SIGN REFORMED ASPIRATION"]⟩,
  ⟨0x16F54, "MIAO VOWEL SIGN ", [
    "A|AA|AHH|AN|ANG|O|OO|WO|W|E|EN|ENG|OEY|I|IA|IAN|IANG|IO|IE|II|IU|ING|U|UA|UAN|UANG|UU|UEI|UNG|Y|YI|AE|AEE|ERR",
    "ROUNDED ERR|ER|ROUNDED ER|AI|EI|AU|OU|N|NG|UOG|YUI|OG|OER|VW|IG|EA|IONG|UI"]⟩,
  ⟨0x16F8F, "MIAO TONE ", ["RIGHT|TOP RIGHT|ABOVE|BELOW"]⟩,
  ⟨0x16F93, "MIAO LETTER TONE-", ["2|3|4|5|6|7|8"]⟩,
  ⟨0x16F9A, "MIAO LETTER REFORMED TONE-", ["1|2|4|5|6|8"]⟩,
  ⟨0x16FE0, "", [
    "TANGUT ITERATION MARK|NUSHU ITERATION MARK|OLD CHINESE HOOK MARK|OLD CHINESE ITERATION MARK",
    "KHITAN SMALL SCRIPT FILLER"]⟩,
  ⟨0x16FF0, "VIETNAMESE ALTERNATE READING MARK ", ["CA|NHAY"]⟩,
  ⟨0x18800, "TANGUT COMPONENT-", [
    "001|002|003|004|005|006|007|008|009|010|011|012|013|014|015|016|017|018|019|020|021|022|023|024|025|026|027",
    "028|029|030|031|032|033|034|035|036|037|038|039|040|041|042|043|044|045|046|047|048|049|050|051|052|053|054",
    "055|056|057|058|059|060|061|062|063|064|065|066|067|068|069|070|071|072|073|074|075|076|077|078|079|080|081",
    "082|083|084|085|086|087|088|089|090|091|092|093|094|095|096|097|098|099|100|101|102|103|104|105|106|107|108",
    "109|110|111|112|113|114|115|116|117|118|119|120|121|122|123|124|125|126|127|128|129|130|131|132|133|134|135",
    "136|137|138|139|140|141|142|143|144|145|146|147|148|149|150|151|152|153|154|155|156|157|158|159|160|161|162",
    "163|164|165|166|167|168|169|170|171|172|173|174|175|176|177|178|179|180|181|182|183|184|185|186|187|188|189",
    "190|191|192|193|194|195|196|197|198|199|200|201|202|203|204|205|206|207|208|209|210|211|212|213|214|215|216",
    "217|218|219|220|221|222|223|224|225|226|227|228|229|230|231|232|233|234|235|236|237|238|239|240|241|242|243",
    "244|245|246|247|248|249|250|251|252|253|254|255|256|257|258|259|260|261|262|263|264|265|266|267|268|269|270",
    "271|272|273|274|275|276|277|278|279|280|281|282|283|284|285|286|287|288|289|290|291|292|293|294|295|296|297",
    "298|299|300|301|302|303|304|305|306|307|308|309|310|311|312|313|314|315|316|317|318|319|320|321|322|323|324",
    "325|326|327|328|329|330|331|332|333|334|335|336|337|338|339|340|341|342|343|344|345|346|347|348|349|350|351",
    "352|353|354|355|356|357|358|359|360|361|362|363|364|365|366|367|368|369|370|371|372|373|374|375|376|377|378",
    "379|380|381|382|383|384|385|386|387|388|389|390|391|392|393|394|395|396|397|398|399|400|401"]⟩,
  ⟨0x18991, "TANGUT COMPONENT-", [
    "402|403|404|405|406|407|408|409|410|411|412|413|414|415|416|417|418|419|420|421|422|423|424|425|426|427|428",
    "429|430|431|432|433|434|435|436|437|438|439|440|441|442|443|444|445|446|447|448|449|450|451|452|453|454|455",
    "456|457|458|459|460|461|462|463|464|465|466|467|468|469|470|471|472|473|474|475|476|477|478|479|480|481|482",
    "483|484|485|486|487|488|489|490|491|492|493|494|495|496|497|498|499|500|501|502|503|504|505|506|507|508|509",
    "510|511|512|513|514|515|516|517|518|519|520|521|522|523|524|525|526|527|528|529|530|531|532|533|534|535|536",
    "537|538|539|540|541|542|543|544|545|546|547|548|549|550|551|552|553|554|555|556|557|558|559|560|561|562|563",
    "564|565|566|567|568|569|570|571|572|573|574|575|576|577|578|579|580|581|582|583|584|585|586|587|588|589|590",
    "591|592|593|594|595|596|597|598|599|600|601|602|603|604|605|606|607|608|609|610|611|612|613|614|615|616|617",
    "618|619|620|621|622|623|624|625|626|627|628|629|630|631|632|633|634|635|636|637|638|639|640|641|642|643|644",
    "645|646|647|648|649|650|651|652|653|654|655|656|657|658|659|660|661|662|663|664|665|666|667|668|669|670|671",
    "672|673|674|675|676|677|678|679|680|681|682|683|684|685|686|687|688|689|690|691|692|693|694|695|696|697|698",
    "699|700|701|702|703|704|705|706|707|708|709|710|711|712|713|714|715|716|717|718|719|720|721|722|723|724|725",
    "726|727|728|729|730|731|732|733|734|735|736|737|738|739|740|741|742|743|744|745|746|747|748|749|750|751|752",
    "753|754|755|756|757|758|759|760|761|762|763|764|765|766|767|768"]⟩,
  ⟨0x1AFF0, "KATAKANA LETTER MINNAN TONE-", ["2|3|4|5"]⟩,
  ⟨0x1AFF5, "KATAKANA LETTER MINNAN TONE-", ["7|8"]⟩,
  ⟨0x1AFF7, "KATAKANA LETTER MINNAN NASALIZED TONE-", ["1|2|3|4|5"]⟩,
  ⟨0x1AFFD, "KATAKANA LETTER MINNAN NASALIZED TONE-", ["7|8"]⟩,
  ⟨0x1B000, "", ["KATAKANA LETTER ARCHAIC E|HIRAGANA LETTER ARCHAIC YE"]⟩,
  ⟨0x1B002, "HENTAIGANA LETTER ", [
    "A-1|A-2|A-3|A-WO|I-1|I-2|I-3|I-4|U-1|U-2|U-3|U-4|U-5|E-2|E-3|E-4|E-5|E-6|O-1|O-2|O-3|KA-1|KA-2|KA-3|KA-4|KA-5",
    "KA-6|KA-7|KA-8|KA-9|KA-10|KA-11|KA-KE|KI-1|KI-2|KI-3|KI-4|KI-5|KI-6|KI-7|KI-8|KU-1|KU-2|KU-3|KU-4|KU-5|KU-6",
    "KU-7|KE-1|KE-2|KE-3|KE-4|KE-5|KE-6|KO-1|KO-2|KO-3|KO-KI|SA-1|SA-2|SA-3|SA-4|SA-5|SA-6|SA-7|SA-8|SI-1|SI-2|SI-3",
    "SI-4|SI-5|SI-6|SU-1|SU-2|SU-3|SU-4|SU-5|SU-6|SU-7|SU-8|SE-1|SE-2|SE-3|SE-4|SE-5|SO-1|SO-2|SO-3|SO-4|SO-5|SO-6",
    "SO-7|TA-1|TA-2|TA-3|TA-4|TI-1|TI-2|TI-3|TI-4|TI-5|TI-6|TI-7|TU-1|TU-2|TU-3|TU-4|TU-TO|TE-1|TE-2|TE-3|TE-4|TE-5",
    "TE-6|TE-7|TE-8|TE-9|TO-1|TO-2|TO-3|TO-4|TO-5|TO-6|TO-RA|NA-1|NA-2|NA-3|NA-4|NA-5|NA-6|NA-7|NA-8|NA-9|NI-1|NI-2",
    "NI-3|NI-4|NI-5|NI-6|NI-7|NI-TE|NU-1|NU-2|NU-3|NE-1|NE-2|NE-3|NE-4|NE-5|NE-6|NE-KO|NO-1|NO-2|NO-3|NO-4|NO-5",
    "HA-1|HA-2|HA-3|HA-4|HA-5|HA-6|HA-7|HA-8|HA-9|HA-10|HA-11|HI-1|HI-2|HI-3|HI-4|HI-5|HI-6|HI-7|HU-1|HU-2|HU-3",
    "HE-1|HE-2|HE-3|HE-4|HE-5|HE-6|HE-7|HO-1|HO-2|HO-3|HO-4|HO-5|HO-6|HO-7|HO-8|MA-1|MA-2|MA-3|MA-4|MA-5|MA-6|MA-7",
    "MI-1|MI-2|MI-3|MI-4|MI-5|MI-6|MI-7|MU-1|MU-2|MU-3|MU-4|ME-1|ME-2|ME-MA|MO-1|MO-2|MO-3|MO-4|MO-5|MO-6|YA-1|YA-2",
    "YA-3|YA-4|YA-5|YA-YO|YU-1|YU-2|YU-3|YU-4|YO-1|YO-2|YO-3|YO-4|YO-5|YO-6|RA-1|RA-2|RA-3|RA-4|RI-1|RI-2|RI-3|RI-4",
    "RI-5|RI-6|RI-7|RU-1|RU-2|RU-3|RU-4|RU-5|RU-6|RE-1|RE-2|RE-3|RE-4|RO-1|RO-2|RO-3|RO-4|RO-5|RO-6|WA-1|WA-2|WA-3",
    "WA-4|WA-5|WI-1|WI-2|WI-3|WI-4|WI-5|WE-1|WE-2|WE-3|WE-4|WO-1|WO-2|WO-3|WO-4|WO-5|WO-6|WO-7|N-MU-MO-1|N-MU-MO-2"]⟩,
  ⟨0x1B11F, "HIRAGANA LETTER ARCHAIC WU", [""]⟩,
  ⟨0x1B120, "KATAKANA LETTER ARCHAIC ", ["YI|YE|WU"]⟩,
  ⟨0x1B150, "HIRAGANA LETTER SMALL ", ["WI|WE|WO"]⟩,
  ⟨0x1B164, "KATAKANA LETTER SMALL ", ["WI|WE|WO|N"]⟩,
  ⟨0x1BC00, "DUPLOYAN LETTER ", [
    "H|X|P|T|F|K|L|B|D|V|G|R|P N|D S|F N|K M|R S|TH|SLOAN DH|DH|KK|SLOAN J|HL|LH|RH|M|N|J|S|M N|N M|J M|S J",
    "M WITH DOT|N WITH DOT|J WITH DOT|J WITH DOTS INSIDE AND ABOVE|S WITH DOT|S WITH DOT BELOW|M S|N S|J S|S S",
    "M N S|N M S|J M S|S J S|J S WITH DOT|J N|J N S|S T|S T R|S P|S P R|T S|T R S|W|WH|W R|S N|S M|K R S|G R S|S K",
    "S K R|A|SLOAN OW|OA|O|AOU|I|E|IE|SHORT I|UI|EE|SLOAN EH|ROMANIAN I|SLOAN EE|LONG I|YE|U|EU|XW|U N|LONG U",
    "ROMANIAN U|UH|SLOAN U|OOH|OW|OU|WA|WO|WI|WEI|WOW|NASAL U|NASAL O|NASAL I|NASAL A|PERNIN AN|PERNIN AM|SLOAN EN",
    "SLOAN AN|SLOAN ON|VOCALIC M"]⟩,
  ⟨0x1BC70, "DUPLOYAN AFFIX ", [
    "LEFT HORIZONTAL SECANT|MID HORIZONTAL SECANT|RIGHT HORIZONTAL SECANT|LOW VERTICAL SECANT|MID VERTICAL SECANT",
    "HIGH VERTICAL SECANT"]⟩,
  ⟨0x1BC76, "DUPLOYAN AFFIX ATTACHED ", ["SECANT|LEFT-TO-RIGHT SECANT|TANGENT|TAIL|E HOOK|I HOOK|TANGENT HOOK"]⟩,
  ⟨0x1BC80, "DUPLOYAN AFFIX HIGH ", ["ACUTE|TIGHT ACUTE|GRAVE|LONG GRAVE|DOT|CIRCLE|LINE|WAVE|VERTICAL"]⟩,
  ⟨0x1BC90, "DUPLOYAN AFFIX LOW ", ["ACUTE|TIGHT ACUTE|GRAVE|LONG GRAVE|DOT|CIRCLE|LINE|WAVE|VERTICAL|ARROW"]⟩,
  ⟨0x1BC9C, "DUPLOYAN ", ["SIGN O WITH CROSS|THICK LETTER SELECTOR|DOUBLE MARK|PUNCTUATION CHINOOK FULL STOP"]⟩,
  ⟨0x1BCA0, "SHORTHAND FORMAT ", ["LETTER OVERLAP|CONTINUING OVERLAP|DOWN STEP|UP STEP"]⟩,
  ⟨0x1CF00, "ZNAMENNY COMBINING MARK ", [
    "GORAZDO NIZKO S KRYZHEM ON LEFT|NIZKO S KRYZHEM ON LEFT|TSATA ON LEFT|GORAZDO NIZKO ON LEFT|NIZKO ON LEFT",
    "SREDNE ON LEFT|MALO POVYSHE ON LEFT|POVYSHE ON LEFT|VYSOKO ON LEFT|MALO POVYSHE S KHOKHLOM ON LEFT",
    "POVYSHE S KHOKHLOM ON LEFT|VYSOKO S KHOKHLOM ON LEFT|GORAZDO NIZKO S KRYZHEM ON RIGHT|NIZKO S KRYZHEM ON RIGHT",
    "TSATA ON RIGHT|GORAZDO NIZKO ON RIGHT|NIZKO ON RIGHT|SREDNE ON RIGHT|MALO POVYSHE ON RIGHT|POVYSHE ON RIGHT",
    "VYSOKO ON RIGHT|MALO POVYSHE S KHOKHLOM ON RIGHT|POVYSHE S KHOKHLOM ON RIGHT|VYSOKO S KHOKHLOM ON RIGHT",
    "TSATA S KRYZHEM|MALO POVYSHE S KRYZHEM|STRANNO MALO POVYSHE|POVYSHE S KRYZHEM|POVYSHE STRANNO|VYSOKO S KRYZHEM",
    "MALO POVYSHE STRANNO|GORAZDO VYSOKO|ZELO|ON|RAVNO|TIKHAYA|BORZAYA|UDARKA|PODVERTKA|LOMKA|KUPNAYA|KACHKA|ZEVOK",
    "SKOBA|RAZSEKA|KRYZH ON LEFT"]⟩,
  ⟨0x1CF30, "ZNAMENNY COMBINING TONAL RANGE MARK ", ["MRACHNO|SVETLO|TRESVETLO"]⟩,
  ⟨0x1CF33, "ZNAMENNY COMBINING MARK ", [
    "ZADERZHKA|DEMESTVENNY ZADERZHKA|OTSECHKA|PODCHASHIE|PODCHASHIE WITH VERTICAL STROKE|CHASHKA|CHASHKA POLNAYA",
    "OBLACHKO|SOROCHYA NOZHKA|TOCHKA|DVOETOCHIE"]⟩,
  ⟨0x1CF3E, "ZNAMENNY COMBINING ", [
    "ATTACHING VERTICAL OMET|MARK CURVED OMET|MARK KRYZH|LOWER TONAL RANGE INDICATOR"]⟩,
  ⟨0x1CF42, "ZNAMENNY PRIZNAK MODIFIER ", ["LEVEL-2|LEVEL-3|DIRECTION FLIP|KRYZH|ROG"]⟩,
  ⟨0x1CF50, "ZNAMENNY NEUME ", [
    "KRYUK|KRYUK TIKHY|PARAKLIT|DVA V CHELNU|KLYUCH|ZANOZHEK|STOPITSA|STOPITSA S OCHKOM|PEREVODKA",
    "PEREVODKA NEPOSTOYANNAYA|STOPITSA WITH SOROCHYA NOZHKA|CHELYUSTKA|PALKA|ZAPYATAYA"]⟩,
  ⟨0x1CF5E, "ZNAMENNY NEUME GOLUBCHIK ", ["BORZY|TIKHY|MRACHNY|SVETLY|TRESVETLY"]⟩,
  ⟨0x1CF63, "ZNAMENNY NEUME VRAKHIYA ", [
    "PROSTAYA|MRACHNAYA|SVETLAYA|TRESVETLAYA|KLYUCHEVAYA PROSTAYA|KLYUCHEVAYA MRACHNAYA|KLYUCHEVAYA SVETLAYA",
    "KLYUCHEVAYA TRESVETLAYA"]⟩,
  ⟨0x1CF6B, "ZNAMENNY NEUME ", [
    "DOUBLE ZAPYATAYA|REVERSED CHELYUSTKA|DERBITSA|KHAMILO|CHASHKA|PODCHASHIE|SKAMEYTSA MRACHNAYA",
    "SKAMEYTSA SVETLAYA|SKAMEYTSA TRESVETLAYA|SKAMEYTSA TIKHAYA|DEMESTVENNY KLYUCH|SKAMEYTSA KLYUCHEVAYA SVETLAYA",
    "SKAMEYTSA KLYUCHENEPOSTOYANNAYA|SKAMEYTSA KLYUCHEVAYA TIKHAYA"]⟩,
  ⟨0x1CF79, "ZNAMENNY NEUME SKAMEYTSA DVOECHELNAYA ", ["PROSTAYA|SVETLAYA|NEPOSTOYANNAYA|KLYUCHEVAYA"]⟩,
  ⟨0x1CF7D, "ZNAMENNY NEUME ", [
    "SLOZHITIE|SLOZHITIE S ZAPYATOY|SLOZHITIE ZAKRYTOE|SLOZHITIE S KRYZHEM|KRYZH|ROG|FITA|KOBYLA|ZMEYTSA|STATYA",
    "STATYA S ZAPYATOY|STATYA S KRYZHEM|STATYA S ZAPYATOY I KRYZHEM|STATYA S KRYZHEM I ZAPYATOY|STATYA ZAKRYTAYA",
    "STATYA ZAKRYTAYA S ZAPYATOY|STATYA S ROGOM|STATYA S DVUMYA ZAPYATYMI|STATYA S ZAPYATOY I PODCHASHIEM",
    "POLKULIZMY|STATYA NEPOSTOYANNAYA"]⟩,
  ⟨0x1CF92, "ZNAMENNY NEUME STRELA ", [
    "PROSTAYA|MRACHNOTIKHAYA|KRYZHEVAYA|POLUPOVODNAYA|POVODNAYA|NEPOSTOYANNAYA|KLYUCHEPOVODNAYA",
    "KLYUCHENEPOSTOYANNAYA|TIKHAYA PUTNAYA|DVOECHELNAYA|DVOECHELNOKRYZHEVAYA|DVOECHELNOPOVODNAYA",
    "DVOECHELNAYA KLYUCHEVAYA|DVOECHELNOPOVODNAYA KLYUCHEVAYA|GROMNAYA WITH SINGLE ZAPYATAYA",
    "GROMOPOVODNAYA WITH SINGLE ZAPYATAYA|GROMNAYA|GROMOPOVODNAYA|GROMOPOVODNAYA WITH DOUBLE ZAPYATAYA",
    "GROMOKRYZHEVAYA|GROMOKRYZHEVAYA POVODNAYA"]⟩,
  ⟨0x1CFA7, "ZNAMENNY NEUME ", [
    "MECHIK|MECHIK POVODNY|MECHIK KLYUCHEVOY|MECHIK KLYUCHEPOVODNY|MECHIK KLYUCHENEPOSTOYANNY|STRELA TRYASOGLASNAYA",
    "STRELA TRYASOPOVODNAYA|STRELA TRYASOSTRELNAYA|OSOKA|OSOKA SVETLAYA|OSOKA TRESVETLAYA|OSOKA KRYUKOVAYA SVETLAYA",
    "OSOKA KLYUCHEVAYA SVETLAYA|OSOKA KLYUCHEVAYA NEPOSTOYANNAYA|STRELA KRYUKOVAYA"]⟩,
  ⟨0x1CFB6, "ZNAMENNY NEUME STRELA KRYUKOVAYA ", [
    "POVODNAYA|GROMNAYA WITH SINGLE ZAPYATAYA|GROMOPOVODNAYA WITH SINGLE ZAPYATAYA|GROMNAYA|GROMOPOVODNAYA",
    "GROMOPOVODNAYA WITH DOUBLE ZAPYATAYA|GROMOKRYZHEVAYA|GROMOKRYZHEVAYA POVODNAYA|TRYASKA"]⟩,
  ⟨0x1CFBF, "ZNAMENNY NEUME ", ["KUFISMA|OBLAKO|DUDA|NEMKA|PAUK"]⟩]

/-- From U+1D000 to U+1DFFF. -/
def from1D000 : List NameRun := [
  ⟨0x1D000, "BYZANTINE MUSICAL SYMBOL ", [
    "PSILI|DASEIA|PERISPOMENI|OXEIA EKFONITIKON|OXEIA DIPLI|VAREIA EKFONITIKON|VAREIA DIPLI|KATHISTI|SYRMATIKI",
    "PARAKLITIKI|YPOKRISIS|YPOKRISIS DIPLI|KREMASTI|APESO EKFONITIKON|EXO EKFONITIKON|TELEIA|KENTIMATA|APOSTROFOS",
    "APOSTROFOS DIPLI|SYNEVMA|THITA|OLIGON ARCHAION|GORGON ARCHAION|PSILON|CHAMILON|VATHY|ISON ARCHAION",
    "KENTIMA ARCHAION|KENTIMATA ARCHAION|SAXIMATA|PARICHON|STAVROS APODEXIA|OXEIAI ARCHAION|VAREIAI ARCHAION",
    "APODERMA ARCHAION|APOTHEMA|KLASMA|REVMA|PIASMA ARCHAION|TINAGMA|ANATRICHISMA|SEISMA|SYNAGMA ARCHAION",
    "SYNAGMA META STAVROU|OYRANISMA ARCHAION|THEMA|LEMOI|DYO|TRIA|TESSERA|KRATIMATA|APESO EXO NEO|FTHORA ARCHAION",
    "IMIFTHORA|TROMIKON ARCHAION|KATAVA TROMIKON|PELASTON|PSIFISTON|KONTEVMA|CHOREVMA ARCHAION|RAPISMA",
    "PARAKALESMA ARCHAION|PARAKLITIKI ARCHAION|ICHADIN|NANA|PETASMA|KONTEVMA ALLO|TROMIKON ALLO|STRAGGISMATA",
    "GRONTHISMATA|ISON NEO|OLIGON NEO|OXEIA NEO|PETASTI|KOUFISMA|PETASTOKOUFISMA|KRATIMOKOUFISMA|PELASTON NEO",
    "KENTIMATA NEO ANO|KENTIMA NEO ANO|YPSILI|APOSTROFOS NEO|APOSTROFOI SYNDESMOS NEO|YPORROI|KRATIMOYPORROON",
    "ELAFRON|CHAMILI|MIKRON ISON|VAREIA NEO|PIASMA NEO|PSIFISTON NEO|OMALON|ANTIKENOMA|LYGISMA|PARAKLITIKI NEO",
    "PARAKALESMA NEO|ETERON PARAKALESMA|KYLISMA|ANTIKENOKYLISMA|TROMIKON NEO|EKSTREPTON|SYNAGMA NEO|SYRMA",
    "CHOREVMA NEO|EPEGERMA|SEISMA NEO|XIRON KLASMA|TROMIKOPSIFISTON|PSIFISTOLYGISMA|TROMIKOLYGISMA",
    "TROMIKOPARAKALESMA|PSIFISTOPARAKALESMA|TROMIKOSYNAGMA|PSIFISTOSYNAGMA|GORGOSYNTHETON|ARGOSYNTHETON",
    "ETERON ARGOSYNTHETON|OYRANISMA NEO|THEMATISMOS ESO|THEMATISMOS EXO|THEMA APLOUN|THES KAI APOTHES|KATAVASMA",
    "ENDOFONON|YFEN KATO|YFEN ANO|STAVROS|KLASMA ANO|DIPLI ARCHAION|KRATIMA ARCHAION|KRATIMA ALLO|KRATIMA NEO",
    "APODERMA NEO|APLI|DIPLI|TRIPLI|TETRAPLI|KORONIS|LEIMMA ENOS CHRONOU|LEIMMA DYO CHRONON|LEIMMA TRION CHRONON",
    "LEIMMA TESSARON CHRONON|LEIMMA IMISEOS CHRONOU|GORGON NEO ANO|GORGON PARESTIGMENON ARISTERA",
    "GORGON PARESTIGMENON DEXIA|DIGORGON|DIGORGON PARESTIGMENON ARISTERA KATO|DIGORGON PARESTIGMENON ARISTERA ANO",
    "DIGORGON PARESTIGMENON DEXIA|TRIGORGON|ARGON|IMIDIARGON|DIARGON"]⟩,
  ⟨0x1D09A, "BYZANTINE MUSICAL SYMBOL AGOGI ", ["POLI ARGI|ARGOTERI|ARGI|METRIA|MESI|GORGI|GORGOTERI|POLI GORGI"]⟩,
  ⟨0x1D0A2, "BYZANTINE MUSICAL SYMBOL MARTYRIA ", [
    "PROTOS ICHOS|ALLI PROTOS ICHOS|DEYTEROS ICHOS|ALLI DEYTEROS ICHOS|TRITOS ICHOS|TRIFONIAS|TETARTOS ICHOS",
    "TETARTOS LEGETOS ICHOS|LEGETOS ICHOS|PLAGIOS ICHOS"]⟩,
  ⟨0x1D0AC, "BYZANTINE MUSICAL SYMBOL ", [
    "ISAKIA TELOUS ICHIMATOS|APOSTROFOI TELOUS ICHIMATOS|FANEROSIS TETRAFONIAS|FANEROSIS MONOFONIAS",
    "FANEROSIS DIFONIAS|MARTYRIA VARYS ICHOS|MARTYRIA PROTOVARYS ICHOS|MARTYRIA PLAGIOS TETARTOS ICHOS",
    "GORTHMIKON N APLOUN|GORTHMIKON N DIPLOUN|ENARXIS KAI FTHORA VOU|IMIFONON|IMIFTHORON",
    "FTHORA ARCHAION DEYTEROU ICHOU|FTHORA DIATONIKI PA|FTHORA DIATONIKI NANA|FTHORA NAOS ICHOS|FTHORA DIATONIKI DI",
    "FTHORA SKLIRON DIATONON DI|FTHORA DIATONIKI KE|FTHORA DIATONIKI ZO|FTHORA DIATONIKI NI KATO",
    "FTHORA DIATONIKI NI ANO|FTHORA MALAKON CHROMA DIFONIAS|FTHORA MALAKON CHROMA MONOFONIAS",
    "FHTORA SKLIRON CHROMA VASIS|FTHORA SKLIRON CHROMA SYNAFI|FTHORA NENANO|CHROA ZYGOS|CHROA KLITON|CHROA SPATHI",
    "FTHORA I YFESIS TETARTIMORION|FTHORA ENARMONIOS ANTIFONIA|YFESIS TRITIMORION|DIESIS TRITIMORION",
    "DIESIS TETARTIMORION|DIESIS APLI DYO DODEKATA|DIESIS MONOGRAMMOS TESSERA DODEKATA|DIESIS DIGRAMMOS EX DODEKATA",
    "DIESIS TRIGRAMMOS OKTO DODEKATA|YFESIS APLI DYO DODEKATA|YFESIS MONOGRAMMOS TESSERA DODEKATA",
    "YFESIS DIGRAMMOS EX DODEKATA|YFESIS TRIGRAMMOS OKTO DODEKATA|GENIKI DIESIS|GENIKI YFESIS|DIASTOLI APLI MIKRI",
    "DIASTOLI APLI MEGALI|DIASTOLI DIPLI|DIASTOLI THESEOS|SIMANSIS THESEOS|SIMANSIS THESEOS DISIMOU",
    "SIMANSIS THESEOS TRISIMOU|SIMANSIS THESEOS TETRASIMOU|SIMANSIS ARSEOS|SIMANSIS ARSEOS DISIMOU",
    "SIMANSIS ARSEOS TRISIMOU|SIMANSIS ARSEOS TETRASIMOU|DIGRAMMA GG|DIFTOGGOS OU|STIGMA|ARKTIKO PA|ARKTIKO VOU",
    "ARKTIKO GA|ARKTIKO DI|ARKTIKO KE|ARKTIKO ZO|ARKTIKO NI|KENTIMATA NEO MESO|KENTIMA NEO MESO|KENTIMATA NEO KATO",
    "KENTIMA NEO KATO|KLASMA KATO|GORGON NEO KATO"]⟩,
  ⟨0x1D100, "MUSICAL SYMBOL ", [
    "SINGLE BARLINE|DOUBLE BARLINE|FINAL BARLINE|REVERSE FINAL BARLINE|DASHED BARLINE|SHORT BARLINE",
    "LEFT REPEAT SIGN|RIGHT REPEAT SIGN|REPEAT DOTS|DAL SEGNO|DA CAPO|SEGNO|CODA|REPEATED FIGURE-1",
    "REPEATED FIGURE-2|REPEATED FIGURE-3|FERMATA|FERMATA BELOW|BREATH MARK|CAESURA|BRACE|BRACKET|ONE-LINE STAFF",
    "TWO-LINE STAFF|THREE-LINE STAFF|FOUR-LINE STAFF|FIVE-LINE STAFF|SIX-LINE STAFF|SIX-STRING FRETBOARD",
    "FOUR-STRING FRETBOARD|G CLEF|G CLEF OTTAVA ALTA|G CLEF OTTAVA BASSA|C CLEF|F CLEF|F CLEF OTTAVA ALTA",
    "F CLEF OTTAVA BASSA|DRUM CLEF-1|DRUM CLEF-2"]⟩,
  ⟨0x1D129, "MUSICAL SYMBOL ", [
    "MULTIPLE MEASURE REST|DOUBLE SHARP|DOUBLE FLAT|FLAT UP|FLAT DOWN|NATURAL UP|NATURAL DOWN|SHARP UP|SHARP DOWN",
    "QUARTER TONE SHARP|QUARTER TONE FLAT|COMMON TIME|CUT TIME|OTTAVA ALTA|OTTAVA BASSA|QUINDICESIMA ALTA",
    "QUINDICESIMA BASSA|MULTI REST|WHOLE REST|HALF REST|QUARTER REST|EIGHTH REST|SIXTEENTH REST|THIRTY-SECOND REST",
    "SIXTY-FOURTH REST|ONE HUNDRED TWENTY-EIGHTH REST|X NOTEHEAD|PLUS NOTEHEAD|CIRCLE X NOTEHEAD",
    "SQUARE NOTEHEAD WHITE|SQUARE NOTEHEAD BLACK"]⟩,
  ⟨0x1D148, "MUSICAL SYMBOL TRIANGLE NOTEHEAD ", [
    "UP WHITE|UP BLACK|LEFT WHITE|LEFT BLACK|RIGHT WHITE|RIGHT BLACK|DOWN WHITE|DOWN BLACK|UP RIGHT WHITE",
    "UP RIGHT BLACK"]⟩,
  ⟨0x1D152, "MUSICAL SYMBOL ", [
    "MOON NOTEHEAD WHITE|MOON NOTEHEAD BLACK|TRIANGLE-ROUND NOTEHEAD DOWN WHITE|TRIANGLE-ROUND NOTEHEAD DOWN BLACK",
    "PARENTHESIS NOTEHEAD|VOID NOTEHEAD|NOTEHEAD BLACK|NULL NOTEHEAD|CLUSTER NOTEHEAD WHITE|CLUSTER NOTEHEAD BLACK",
    "BREVE|WHOLE NOTE|HALF NOTE|QUARTER NOTE|EIGHTH NOTE|SIXTEENTH NOTE|THIRTY-SECOND NOTE|SIXTY-FOURTH NOTE",
    "ONE HUNDRED TWENTY-EIGHTH NOTE"]⟩,
  ⟨0x1D165, "MUSICAL SYMBOL COMBINING ", ["STEM|SPRECHGESANG STEM|TREMOLO-1|TREMOLO-2|TREMOLO-3"]⟩,
  ⟨0x1D16A, "MUSICAL SYMBOL FINGERED TREMOLO-", ["1|2|3"]⟩,
  ⟨0x1D16D, "MUSICAL SYMBOL COMBINING ", ["AUGMENTATION DOT|FLAG-1|FLAG-2|FLAG-3|FLAG-4|FLAG-5"]⟩,
  ⟨0x1D173, "MUSICAL SYMBOL ", ["BEGIN BEAM|END BEAM|BEGIN TIE|END TIE|BEGIN SLUR|END SLUR|BEGIN PHRASE|END PHRASE"]⟩,
  ⟨0x1D17B, "MUSICAL SYMBOL COMBINING ", [
    "ACCENT|STACCATO|TENUTO|STACCATISSIMO|MARCATO|MARCATO-STACCATO|ACCENT-STACCATO|LOURE"]⟩,
  ⟨0x1D183, "MUSICAL SYMBOL ARPEGGIATO ", ["UP|DOWN"]⟩,
  ⟨0x1D185, "MUSICAL SYMBOL COMBINING ", ["DOIT|RIP|FLIP|SMEAR|BEND|DOUBLE TONGUE|TRIPLE TONGUE"]⟩,
  ⟨0x1D18C, "MUSICAL SYMBOL ", [
    "RINFORZANDO|SUBITO|Z|PIANO|MEZZO|FORTE|CRESCENDO|DECRESCENDO|GRACE NOTE SLASH|GRACE NOTE NO SLASH|TR|TURN",
    "INVERTED TURN|TURN SLASH|TURN UP"]⟩,
  ⟨0x1D19B, "MUSICAL SYMBOL ORNAMENT STROKE-", ["1|2|3|4|5|6|7|8|9|10|11"]⟩,
  ⟨0x1D1A6, "MUSICAL SYMBOL ", [
    "HAUPTSTIMME|NEBENSTIMME|END OF STIMME|DEGREE SLASH|COMBINING DOWN BOW|COMBINING UP BOW|COMBINING HARMONIC",
    "COMBINING SNAP PIZZICATO|PEDAL MARK|PEDAL UP MARK|HALF PEDAL MARK|GLISSANDO UP|GLISSANDO DOWN|WITH FINGERNAILS",
    "DAMP|DAMP ALL|MAXIMA|LONGA|BREVIS|SEMIBREVIS WHITE|SEMIBREVIS BLACK|MINIMA|MINIMA BLACK|SEMIMINIMA WHITE",
    "SEMIMINIMA BLACK|FUSA WHITE|FUSA BLACK|LONGA PERFECTA REST|LONGA IMPERFECTA REST|BREVIS REST|SEMIBREVIS REST",
    "MINIMA REST|SEMIMINIMA REST"]⟩,
  ⟨0x1D1C7, "MUSICAL SYMBOL TEMPUS PERFECTUM CUM PROLATIONE ", ["PERFECTA|IMPERFECTA|PERFECTA DIMINUTION-1"]⟩,
  ⟨0x1D1CA, "MUSICAL SYMBOL TEMPUS IMPERFECTUM CUM PROLATIONE ", [
    "PERFECTA|IMPERFECTA|IMPERFECTA DIMINUTION-1|IMPERFECTA DIMINUTION-2|IMPERFECTA DIMINUTION-3"]⟩,
  ⟨0x1D1CF, "MUSICAL SYMBOL ", [
    "CROIX|GREGORIAN C CLEF|GREGORIAN F CLEF|SQUARE B|VIRGA|PODATUS|CLIVIS|SCANDICUS|CLIMACUS|TORCULUS|PORRECTUS",
    "PORRECTUS FLEXUS|SCANDICUS FLEXUS|TORCULUS RESUPINUS|PES SUBPUNCTIS"]⟩,
  ⟨0x1D1DE, "MUSICAL SYMBOL KIEVAN ", [
    "C CLEF|END OF PIECE|FINAL NOTE|RECITATIVE MARK|WHOLE NOTE|HALF NOTE|QUARTER NOTE STEM DOWN",
    "QUARTER NOTE STEM UP|EIGHTH NOTE STEM DOWN|EIGHTH NOTE STEM UP|FLAT SIGN"]⟩,
  ⟨0x1D1E9, "MUSICAL SYMBOL ", ["SORI|KORON"]⟩,
  ⟨0x1D200, "GREEK VOCAL NOTATION SYMBOL-", [
    "1|2|3|4|5|6|7|8|9|10|11|12|13|14|15|16|17|18|19|20|21|22|23|24|50|51|52|53|54"]⟩,
  ⟨0x1D21D, "GREEK INSTRUMENTAL NOTATION SYMBOL-", [
    "1|2|4|5|7|8|11|12|13|14|17|18|19|23|24|25|26|27|29|30|32|36|37|38|39|40|42|43|45|47|48|49|50|51|52|53|54"]⟩,
  ⟨0x1D242, "COMBINING GREEK MUSICAL ", ["TRISEME|TETRASEME|PENTASEME"]⟩,
  ⟨0x1D245, "GREEK MUSICAL LEIMMA", [""]⟩,
  ⟨0x1D2E0, "MAYAN NUMERAL ", [
    "ZERO|ONE|TWO|THREE|FOUR|FIVE|SIX|SEVEN|EIGHT|NINE|TEN|ELEVEN|TWELVE|THIRTEEN|FOURTEEN|FIFTEEN|SIXTEEN",
    "SEVENTEEN|EIGHTEEN|NINETEEN"]⟩,
  ⟨0x1D300, "MONOGRAM FOR EARTH", [""]⟩,
  ⟨0x1D301, "DIGRAM FOR ", ["HEAVENLY EARTH|HUMAN EARTH|EARTHLY HEAVEN|EARTHLY HUMAN|EARTH"]⟩,
  ⟨0x1D306, "TETRAGRAM FOR ", [
    "CENTRE|FULL CIRCLE|MIRED|BARRIER|KEEPING SMALL|CONTRARIETY|ASCENT|OPPOSITION|BRANCHING OUT",
    "DEFECTIVENESS OR DISTORTION|DIVERGENCE|YOUTHFULNESS|INCREASE|PENETRATION|REACH|CONTACT|HOLDING BACK|WAITING",
    "FOLLOWING|ADVANCE|RELEASE|RESISTANCE|EASE|JOY|CONTENTION|ENDEAVOUR|DUTIES|CHANGE|DECISIVENESS|BOLD RESOLUTION",
    "PACKING|LEGION|CLOSENESS|KINSHIP|GATHERING|STRENGTH|PURITY|FULLNESS|RESIDENCE|LAW OR MODEL|RESPONSE",
    "GOING TO MEET|ENCOUNTERS|STOVE|GREATNESS|ENLARGEMENT|PATTERN|RITUAL|FLIGHT|VASTNESS OR WASTING|CONSTANCY",
    "MEASURE|ETERNITY|UNITY|DIMINISHMENT|CLOSED MOUTH|GUARDEDNESS|GATHERING IN|MASSING|ACCUMULATION|EMBELLISHMENT",
    "DOUBT|WATCH|SINKING|INNER|DEPARTURE|DARKENING|DIMMING|EXHAUSTION|SEVERANCE|STOPPAGE|HARDNESS|COMPLETION",
    "CLOSURE|FAILURE|AGGRAVATION|COMPLIANCE|ON THE VERGE|DIFFICULTIES|LABOURING|FOSTERING"]⟩,
  ⟨0x1D360, "COUNTING ROD UNIT DIGIT ", ["ONE|TWO|THREE|FOUR|FIVE|SIX|SEVEN|EIGHT|NINE"]⟩,
  ⟨0x1D369, "COUNTING ROD TENS DIGIT ", ["ONE|TWO|THREE|FOUR|FIVE|SIX|SEVEN|EIGHT|NINE"]⟩,
  ⟨0x1D372, "IDEOGRAPHIC TALLY MARK ", ["ONE|TWO|THREE|FOUR|FIVE"]⟩,
  ⟨0x1D377, "TALLY MARK ", ["ONE|FIVE"]⟩,
  ⟨0x1D400, "MATHEMATICAL BOLD CAPITAL ", ["A|B|C|D|E|F|G|H|I|J|K|L|M|N|O|P|Q|R|S|T|U|V|W|X|Y|Z"]⟩,
  ⟨0x1D41A, "MATHEMATICAL BOLD SMALL ", ["A|B|C|D|E|F|G|H|I|J|K|L|M|N|O|P|Q|R|S|T|U|V|W|X|Y|Z"]⟩,
  ⟨0x1D434, "MATHEMATICAL ITALIC CAPITAL ", ["A|B|C|D|E|F|G|H|I|J|K|L|M|N|O|P|Q|R|S|T|U|V|W|X|Y|Z"]⟩,
  ⟨0x1D44E, "MATHEMATICAL ITALIC SMALL ", ["A|B|C|D|E|F|G"]⟩,
  ⟨0x1D456, "MATHEMATICAL ITALIC SMALL ", ["I|J|K|L|M|N|O|P|Q|R|S|T|U|V|W|X|Y|Z"]⟩,
  ⟨0x1D468, "MATHEMATICAL BOLD ITALIC CAPITAL ", ["A|B|C|D|E|F|G|H|I|J|K|L|M|N|O|P|Q|R|S|T|U|V|W|X|Y|Z"]⟩,
  ⟨0x1D482, "MATHEMATICAL BOLD ITALIC SMALL ", ["A|B|C|D|E|F|G|H|I|J|K|L|M|N|O|P|Q|R|S|T|U|V|W|X|Y|Z"]⟩,
  ⟨0x1D49C, "MATHEMATICAL SCRIPT CAPITAL A", [""]⟩,
  ⟨0x1D49E, "MATHEMATICAL SCRIPT CAPITAL ", ["C|D"]⟩,
  ⟨0x1D4A2, "MATHEMATICAL SCRIPT CAPITAL G", [""]⟩,
  ⟨0x1D4A5, "MATHEMATICAL SCRIPT CAPITAL ", ["J|K"]⟩,
  ⟨0x1D4A9, "MATHEMATICAL SCRIPT CAPITAL ", ["N|O|P|Q"]⟩,
  ⟨0x1D4AE, "MATHEMATICAL SCRIPT CAPITAL ", ["S|T|U|V|W|X|Y|Z"]⟩,
  ⟨0x1D4B6, "MATHEMATICAL SCRIPT SMALL ", ["A|B|C|D"]⟩,
  ⟨0x1D4BB, "MATHEMATICAL SCRIPT SMALL F", [""]⟩,
  ⟨0x1D4BD, "MATHEMATICAL SCRIPT SMALL ", ["H|I|J|K|L|M|N"]⟩,
  ⟨0x1D4C5, "MATHEMATICAL SCRIPT SMALL ", ["P|Q|R|S|T|U|V|W|X|Y|Z"]⟩,
  ⟨0x1D4D0, "MATHEMATICAL BOLD SCRIPT CAPITAL ", ["A|B|C|D|E|F|G|H|I|J|K|L|M|N|O|P|Q|R|S|T|U|V|W|X|Y|Z"]⟩,
  ⟨0x1D4EA, "MATHEMATICAL BOLD SCRIPT SMALL ", ["A|B|C|D|E|F|G|H|I|J|K|L|M|N|O|P|Q|R|S|T|U|V|W|X|Y|Z"]⟩,
  ⟨0x1D504, "MATHEMATICAL FRAKTUR CAPITAL ", ["A|B"]⟩,
  ⟨0x1D507, "MATHEMATICAL FRAKTUR CAPITAL ", ["D|E|F|G"]⟩,
  ⟨0x1D50D, "MATHEMATICAL FRAKTUR CAPITAL ", ["J|K|L|M|N|O|P|Q"]⟩,
  ⟨0x1D516, "MATHEMATICAL FRAKTUR CAPITAL ", ["S|T|U|V|W|X|Y"]⟩,
  ⟨0x1D51E, "MATHEMATICAL FRAKTUR SMALL ", ["A|B|C|D|E|F|G|H|I|J|K|L|M|N|O|P|Q|R|S|T|U|V|W|X|Y|Z"]⟩,
  ⟨0x1D538, "MATHEMATICAL DOUBLE-STRUCK CAPITAL ", ["A|B"]⟩,
  ⟨0x1D53B, "MATHEMATICAL DOUBLE-STRUCK CAPITAL ", ["D|E|F|G"]⟩,
  ⟨0x1D540, "MATHEMATICAL DOUBLE-STRUCK CAPITAL ", ["I|J|K|L|M"]⟩,
  ⟨0x1D546, "MATHEMATICAL DOUBLE-STRUCK CAPITAL O", [""]⟩,
  ⟨0x1D54A, "MATHEMATICAL DOUBLE-STRUCK CAPITAL ", ["S|T|U|V|W|X|Y"]⟩,
  ⟨0x1D552, "MATHEMATICAL DOUBLE-STRUCK SMALL ", ["A|B|C|D|E|F|G|H|I|J|K|L|M|N|O|P|Q|R|S|T|U|V|W|X|Y|Z"]⟩,
  ⟨0x1D56C, "MATHEMATICAL BOLD FRAKTUR CAPITAL ", ["A|B|C|D|E|F|G|H|I|J|K|L|M|N|O|P|Q|R|S|T|U|V|W|X|Y|Z"]⟩,
  ⟨0x1D586, "MATHEMATICAL BOLD FRAKTUR SMALL ", ["A|B|C|D|E|F|G|H|I|J|K|L|M|N|O|P|Q|R|S|T|U|V|W|X|Y|Z"]⟩,
  ⟨0x1D5A0, "MATHEMATICAL SANS-SERIF CAPITAL ", ["A|B|C|D|E|F|G|H|I|J|K|L|M|N|O|P|Q|R|S|T|U|V|W|X|Y|Z"]⟩,
  ⟨0x1D5BA, "MATHEMATICAL SANS-SERIF SMALL ", ["A|B|C|D|E|F|G|H|I|J|K|L|M|N|O|P|Q|R|S|T|U|V|W|X|Y|Z"]⟩,
  ⟨0x1D5D4, "MATHEMATICAL SANS-SERIF BOLD CAPITAL ", ["A|B|C|D|E|F|G|H|I|J|K|L|M|N|O|P|Q|R|S|T|U|V|W|X|Y|Z"]⟩,
  ⟨0x1D5EE, "MATHEMATICAL SANS-SERIF BOLD SMALL ", ["A|B|C|D|E|F|G|H|I|J|K|L|M|N|O|P|Q|R|S|T|U|V|W|X|Y|Z"]⟩,
  ⟨0x1D608, "MATHEMATICAL SANS-SERIF ITALIC CAPITAL ", ["A|B|C|D|E|F|G|H|I|J|K|L|M|N|O|P|Q|R|S|T|U|V|W|X|Y|Z"]⟩,
  ⟨0x1D622, "MATHEMATICAL SANS-SERIF ITALIC SMALL ", ["A|B|C|D|E|F|G|H|I|J|K|L|M|N|O|P|Q|R|S|T|U|V|W|X|Y|Z"]⟩,
  ⟨0x1D63C, "MATHEMATICAL SANS-SERIF BOLD ITALIC CAPITAL ", ["A|B|C|D|E|F|G|H|I|J|K|L|M|N|O|P|Q|R|S|T|U|V|W|X|Y|Z"]⟩,
  ⟨0x1D656, "MATHEMATICAL SANS-SERIF BOLD ITALIC SMALL ", ["A|B|C|D|E|F|G|H|I|J|K|L|M|N|O|P|Q|R|S|T|U|V|W|X|Y|Z"]⟩,
  ⟨0x1D670, "MATHEMATICAL MONOSPACE CAPITAL ", ["A|B|C|D|E|F|G|H|I|J|K|L|M|N|O|P|Q|R|S|T|U|V|W|X|Y|Z"]⟩,
  ⟨0x1D68A, "MATHEMATICAL MONOSPACE SMALL ", ["A|B|C|D|E|F|G|H|I|J|K|L|M|N|O|P|Q|R|S|T|U|V|W|X|Y|Z"]⟩,
  ⟨0x1D6A4, "MATHEMATICAL ITALIC SMALL DOTLESS ", ["I|J"]⟩,
  ⟨0x1D6A8, "MATHEMATICAL BOLD CAPITAL ", [
    "ALPHA|BETA|GAMMA|DELTA|EPSILON|ZETA|ETA|THETA|IOTA|KAPPA|LAMDA|MU|NU|XI|OMICRON|PI|RHO|THETA SYMBOL|SIGMA|TAU",
    "UPSILON|PHI|CHI|PSI|OMEGA"]⟩,
  ⟨0x1D6C1, "MATHEMATICAL BOLD NABLA", [""]⟩,
  ⟨0x1D6C2, "MATHEMATICAL BOLD SMALL ", [
    "ALPHA|BETA|GAMMA|DELTA|EPSILON|ZETA|ETA|THETA|IOTA|KAPPA|LAMDA|MU|NU|XI|OMICRON|PI|RHO|FINAL SIGMA|SIGMA|TAU",
    "UPSILON|PHI|CHI|PSI|OMEGA"]⟩,
  ⟨0x1D6DB, "MATHEMATICAL BOLD ", [
    "PARTIAL DIFFERENTIAL|EPSILON SYMBOL|THETA SYMBOL|KAPPA SYMBOL|PHI SYMBOL|RHO SYMBOL|PI SYMBOL"]⟩,
  ⟨0x1D6E2, "MATHEMATICAL ITALIC CAPITAL ", [
    "ALPHA|BETA|GAMMA|DELTA|EPSILON|ZETA|ETA|THETA|IOTA|KAPPA|LAMDA|MU|NU|XI|OMICRON|PI|RHO|THETA SYMBOL|SIGMA|TAU",
    "UPSILON|PHI|CHI|PSI|OMEGA"]⟩,
  ⟨0x1D6FB, "MATHEMATICAL ITALIC NABLA", [""]⟩,
  ⟨0x1D6FC, "MATHEMATICAL ITALIC SMALL ", [
    "ALPHA|BETA|GAMMA|DELTA|EPSILON|ZETA|ETA|THETA|IOTA|KAPPA|LAMDA|MU|NU|XI|OMICRON|PI|RHO|FINAL SIGMA|SIGMA|TAU",
    "UPSILON|PHI|CHI|PSI|OMEGA"]⟩,
  ⟨0x1D715, "MATHEMATICAL ITALIC ", [
    "PARTIAL DIFFERENTIAL|EPSILON SYMBOL|THETA SYMBOL|KAPPA SYMBOL|PHI SYMBOL|RHO SYMBOL|PI SYMBOL"]⟩,
  ⟨0x1D71C, "MATHEMATICAL BOLD ITALIC CAPITAL ", [
    "ALPHA|BETA|GAMMA|DELTA|EPSILON|ZETA|ETA|THETA|IOTA|KAPPA|LAMDA|MU|NU|XI|OMICRON|PI|RHO|THETA SYMBOL|SIGMA|TAU",
    "UPSILON|PHI|CHI|PSI|OMEGA"]⟩,
  ⟨0x1D735, "MATHEMATICAL BOLD ITALIC NABLA", [""]⟩,
  ⟨0x1D736, "MATHEMATICAL BOLD ITALIC SMALL ", [
    "ALPHA|BETA|GAMMA|DELTA|EPSILON|ZETA|ETA|THETA|IOTA|KAPPA|LAMDA|MU|NU|XI|OMICRON|PI|RHO|FINAL SIGMA|SIGMA|TAU",
    "UPSILON|PHI|CHI|PSI|OMEGA"]⟩,
  ⟨0x1D74F, "MATHEMATICAL BOLD ITALIC ", [
    "PARTIAL DIFFERENTIAL|EPSILON SYMBOL|THETA SYMBOL|KAPPA SYMBOL|PHI SYMBOL|RHO SYMBOL|PI SYMBOL"]⟩,
  ⟨0x1D756, "MATHEMATICAL SANS-SERIF BOLD CAPITAL ", [
    "ALPHA|BETA|GAMMA|DELTA|EPSILON|ZETA|ETA|THETA|IOTA|KAPPA|LAMDA|MU|NU|XI|OMICRON|PI|RHO|THETA SYMBOL|SIGMA|TAU",
    "UPSILON|PHI|CHI|PSI|OMEGA"]⟩,
  ⟨0x1D76F, "MATHEMATICAL SANS-SERIF BOLD NABLA", [""]⟩,
  ⟨0x1D770, "MATHEMATICAL SANS-SERIF BOLD SMALL ", [
    "ALPHA|BETA|GAMMA|DELTA|EPSILON|ZETA|ETA|THETA|IOTA|KAPPA|LAMDA|MU|NU|XI|OMICRON|PI|RHO|FINAL SIGMA|SIGMA|TAU",
    "UPSILON|PHI|CHI|PSI|OMEGA"]⟩,
  ⟨0x1D789, "MATHEMATICAL SANS-SERIF BOLD ", [
    "PARTIAL DIFFERENTIAL|EPSILON SYMBOL|THETA SYMBOL|KAPPA SYMBOL|PHI SYMBOL|RHO SYMBOL|PI SYMBOL"]⟩,
  ⟨0x1D790, "MATHEMATICAL SANS-SERIF BOLD ITALIC CAPITAL ", [
    "ALPHA|BETA|GAMMA|DELTA|EPSILON|ZETA|ETA|THETA|IOTA|KAPPA|LAMDA|MU|NU|XI|OMICRON|PI|RHO|THETA SYMBOL|SIGMA|TAU",
    "UPSILON|PHI|CHI|PSI|OMEGA"]⟩,
  ⟨0x1D7A9, "MATHEMATICAL SANS-SERIF BOLD ITALIC NABLA", [""]⟩,
  ⟨0x1D7AA, "MATHEMATICAL SANS-SERIF BOLD ITALIC SMALL ", [
    "ALPHA|BETA|GAMMA|DELTA|EPSILON|ZETA|ETA|THETA|IOTA|KAPPA|LAMDA|MU|NU|XI|OMICRON|PI|RHO|FINAL SIGMA|SIGMA|TAU",
    "UPSILON|PHI|CHI|PSI|OMEGA"]⟩,
  ⟨0x1D7C3, "MATHEMATICAL SANS-SERIF BOLD ITALIC ", [
    "PARTIAL DIFFERENTIAL|EPSILON SYMBOL|THETA SYMBOL|KAPPA SYMBOL|PHI SYMBOL|RHO SYMBOL|PI SYMBOL"]⟩,
  ⟨0x1D7CA, "MATHEMATICAL BOLD ", ["CAPITAL DIGAMMA|SMALL DIGAMMA"]⟩,
  ⟨0x1D7CE, "MATHEMATICAL BOLD DIGIT ", ["ZERO|ONE|TWO|THREE|FOUR|FIVE|SIX|SEVEN|EIGHT|NINE"]⟩,
  ⟨0x1D7D8, "MATHEMATICAL DOUBLE-STRUCK DIGIT ", ["ZERO|ONE|TWO|THREE|FOUR|FIVE|SIX|SEVEN|EIGHT|NINE"]⟩,
  ⟨0x1D7E2, "MATHEMATICAL SANS-SERIF DIGIT ", ["ZERO|ONE|TWO|THREE|FOUR|FIVE|SIX|SEVEN|EIGHT|NINE"]⟩,
  ⟨0x1D7EC, "MATHEMATICAL SANS-SERIF BOLD DIGIT ", ["ZERO|ONE|TWO|THREE|FOUR|FIVE|SIX|SEVEN|EIGHT|NINE"]⟩,
  ⟨0x1D7F6, "MATHEMATICAL MONOSPACE DIGIT ", ["ZERO|ONE|TWO|THREE|FOUR|FIVE|SIX|SEVEN|EIGHT|NINE"]⟩,
  ⟨0x1D800, "SIGNWRITING HAND-", [
    "FIST INDEX|CIRCLE INDEX|CUP INDEX|OVAL INDEX|HINGE INDEX|ANGLE INDEX|FIST INDEX BENT|CIRCLE INDEX BENT",
    "FIST THUMB UNDER INDEX BENT|FIST INDEX RAISED KNUCKLE|FIST INDEX CUPPED|FIST INDEX HINGED",
    "FIST INDEX HINGED LOW|CIRCLE INDEX HINGE|FIST INDEX MIDDLE|CIRCLE INDEX MIDDLE"]⟩,
  ⟨0x1D810, "SIGNWRITING HAND-FIST INDEX ", [
    "MIDDLE BENT|MIDDLE RAISED KNUCKLES|MIDDLE HINGED|UP MIDDLE HINGED|HINGED MIDDLE UP|MIDDLE CONJOINED",
    "MIDDLE CONJOINED INDEX BENT|MIDDLE CONJOINED MIDDLE BENT|MIDDLE CONJOINED CUPPED|MIDDLE CONJOINED HINGED",
    "MIDDLE CROSSED"]⟩,
  ⟨0x1D81B, "SIGNWRITING HAND-", [
    "CIRCLE INDEX MIDDLE CROSSED|FIST MIDDLE BENT OVER INDEX|FIST INDEX BENT OVER MIDDLE|FIST INDEX MIDDLE THUMB",
    "CIRCLE INDEX MIDDLE THUMB"]⟩,
  ⟨0x1D820, "SIGNWRITING HAND-FIST INDEX ", [
    "MIDDLE STRAIGHT THUMB BENT|MIDDLE BENT THUMB STRAIGHT|MIDDLE THUMB BENT|MIDDLE HINGED SPREAD THUMB SIDE",
    "UP MIDDLE HINGED THUMB SIDE|UP MIDDLE HINGED THUMB CONJOINED|HINGED MIDDLE UP THUMB SIDE",
    "MIDDLE UP SPREAD THUMB FORWARD|MIDDLE THUMB CUPPED|MIDDLE THUMB CIRCLED|MIDDLE THUMB HOOKED",
    "MIDDLE THUMB HINGED"]⟩,
  ⟨0x1D82C, "SIGNWRITING HAND-FIST ", [
    "THUMB BETWEEN INDEX MIDDLE STRAIGHT|INDEX MIDDLE CONJOINED THUMB SIDE",
    "INDEX MIDDLE CONJOINED THUMB SIDE CONJOINED|INDEX MIDDLE CONJOINED THUMB SIDE BENT",
    "MIDDLE THUMB HOOKED INDEX UP|INDEX THUMB HOOKED MIDDLE UP|INDEX MIDDLE CONJOINED HINGED THUMB SIDE",
    "INDEX MIDDLE CROSSED THUMB SIDE|INDEX MIDDLE CONJOINED THUMB FORWARD",
    "INDEX MIDDLE CONJOINED CUPPED THUMB FORWARD|MIDDLE THUMB CUPPED INDEX UP|INDEX THUMB CUPPED MIDDLE UP",
    "MIDDLE THUMB CIRCLED INDEX UP|MIDDLE THUMB CIRCLED INDEX HINGED|INDEX THUMB ANGLED OUT MIDDLE UP",
    "INDEX THUMB ANGLED IN MIDDLE UP|INDEX THUMB CIRCLED MIDDLE UP|INDEX MIDDLE THUMB CONJOINED HINGED",
    "INDEX MIDDLE THUMB ANGLED OUT|INDEX MIDDLE THUMB ANGLED|MIDDLE THUMB ANGLED OUT INDEX UP",
    "MIDDLE THUMB ANGLED OUT INDEX CROSSED|MIDDLE THUMB ANGLED INDEX UP|INDEX THUMB HOOKED MIDDLE HINGED"]⟩,
  ⟨0x1D844, "SIGNWRITING HAND-FLAT FOUR ", [
    "FINGERS|FINGERS BENT|FINGERS HINGED|FINGERS CONJOINED|FINGERS CONJOINED SPLIT"]⟩,
  ⟨0x1D849, "SIGNWRITING HAND-", [
    "CLAW FOUR FINGERS CONJOINED|FIST FOUR FINGERS CONJOINED BENT|HINGE FOUR FINGERS CONJOINED",
    "FLAT FIVE FINGERS SPREAD|FLAT HEEL FIVE FINGERS SPREAD|FLAT FIVE FINGERS SPREAD FOUR BENT",
    "FLAT HEEL FIVE FINGERS SPREAD FOUR BENT|FLAT FIVE FINGERS SPREAD BENT|FLAT HEEL FIVE FINGERS SPREAD BENT",
    "FLAT FIVE FINGERS SPREAD THUMB FORWARD|CUP FIVE FINGERS SPREAD|CUP FIVE FINGERS SPREAD OPEN",
    "HINGE FIVE FINGERS SPREAD OPEN|OVAL FIVE FINGERS SPREAD|FLAT FIVE FINGERS SPREAD HINGED",
    "FLAT FIVE FINGERS SPREAD HINGED THUMB SIDE|FLAT FIVE FINGERS SPREAD HINGED NO THUMB|FLAT",
    "FLAT BETWEEN PALM FACINGS|FLAT HEEL|FLAT THUMB SIDE|FLAT HEEL THUMB SIDE|FLAT THUMB BENT|FLAT THUMB FORWARD",
    "FLAT SPLIT INDEX THUMB SIDE|FLAT SPLIT CENTRE|FLAT SPLIT CENTRE THUMB SIDE|FLAT SPLIT CENTRE THUMB SIDE BENT",
    "FLAT SPLIT LITTLE|CLAW|CLAW THUMB SIDE|CLAW NO THUMB|CLAW THUMB FORWARD|HOOK CURLICUE|HOOK|CUP OPEN|CUP",
    "CUP OPEN THUMB SIDE|CUP THUMB SIDE|CUP OPEN NO THUMB|CUP NO THUMB|CUP OPEN THUMB FORWARD|CUP THUMB FORWARD",
    "CURLICUE OPEN|CURLICUE|CIRCLE|OVAL|OVAL THUMB SIDE|OVAL NO THUMB|OVAL THUMB FORWARD|HINGE OPEN",
    "HINGE OPEN THUMB FORWARD|HINGE|HINGE SMALL|HINGE OPEN THUMB SIDE|HINGE THUMB SIDE|HINGE OPEN NO THUMB",
    "HINGE NO THUMB|HINGE THUMB SIDE TOUCHING INDEX|HINGE THUMB BETWEEN MIDDLE RING|ANGLE|FIST INDEX MIDDLE RING",
    "CIRCLE INDEX MIDDLE RING|HINGE INDEX MIDDLE RING|ANGLE INDEX MIDDLE RING|HINGE LITTLE",
    "FIST INDEX MIDDLE RING BENT|FIST INDEX MIDDLE RING CONJOINED|HINGE INDEX MIDDLE RING CONJOINED",
    "FIST LITTLE DOWN|FIST LITTLE DOWN RIPPLE STRAIGHT|FIST LITTLE DOWN RIPPLE CURVED",
    "FIST LITTLE DOWN OTHERS CIRCLED|FIST LITTLE UP|FIST THUMB UNDER LITTLE UP|CIRCLE LITTLE UP|OVAL LITTLE UP",
    "ANGLE LITTLE UP|FIST LITTLE RAISED KNUCKLE|FIST LITTLE BENT|FIST LITTLE TOUCHES THUMB|FIST LITTLE THUMB",
    "HINGE LITTLE THUMB|FIST LITTLE INDEX THUMB|HINGE LITTLE INDEX THUMB|ANGLE LITTLE INDEX THUMB INDEX THUMB OUT",
    "ANGLE LITTLE INDEX THUMB INDEX THUMB|FIST LITTLE INDEX|CIRCLE LITTLE INDEX|HINGE LITTLE INDEX",
    "ANGLE LITTLE INDEX|FIST INDEX MIDDLE LITTLE|CIRCLE INDEX MIDDLE LITTLE|HINGE INDEX MIDDLE LITTLE|HINGE RING",
    "ANGLE INDEX MIDDLE LITTLE|FIST INDEX MIDDLE CROSS LITTLE|CIRCLE INDEX MIDDLE CROSS LITTLE|FIST RING DOWN",
    "HINGE RING DOWN INDEX THUMB HOOK MIDDLE|ANGLE RING DOWN MIDDLE THUMB INDEX CROSS|FIST RING UP",
    "FIST RING RAISED KNUCKLE|FIST RING LITTLE|CIRCLE RING LITTLE|OVAL RING LITTLE|ANGLE RING LITTLE",
    "FIST RING MIDDLE|FIST RING MIDDLE CONJOINED|FIST RING MIDDLE RAISED KNUCKLES|FIST RING INDEX|FIST RING THUMB",
    "HOOK RING THUMB|FIST INDEX RING LITTLE|CIRCLE INDEX RING LITTLE|CURLICUE INDEX RING LITTLE ON",
    "HOOK INDEX RING LITTLE OUT|HOOK INDEX RING LITTLE IN|HOOK INDEX RING LITTLE UNDER|CUP INDEX RING LITTLE",
    "HINGE INDEX RING LITTLE|ANGLE INDEX RING LITTLE OUT|ANGLE INDEX RING LITTLE|FIST MIDDLE DOWN|HINGE MIDDLE",
    "FIST MIDDLE UP|CIRCLE MIDDLE UP|FIST MIDDLE RAISED KNUCKLE|FIST MIDDLE UP THUMB SIDE|HOOK MIDDLE THUMB",
    "FIST MIDDLE THUMB LITTLE|FIST MIDDLE LITTLE|FIST MIDDLE RING LITTLE|CIRCLE MIDDLE RING LITTLE",
    "CURLICUE MIDDLE RING LITTLE ON|CUP MIDDLE RING LITTLE|HINGE MIDDLE RING LITTLE|ANGLE MIDDLE RING LITTLE OUT",
    "ANGLE MIDDLE RING LITTLE IN|ANGLE MIDDLE RING LITTLE|CIRCLE MIDDLE RING LITTLE BENT",
    "CLAW MIDDLE RING LITTLE CONJOINED|CLAW MIDDLE RING LITTLE CONJOINED SIDE|HOOK MIDDLE RING LITTLE CONJOINED OUT",
    "HOOK MIDDLE RING LITTLE CONJOINED IN|HOOK MIDDLE RING LITTLE CONJOINED|HINGE INDEX HINGED",
    "FIST INDEX THUMB SIDE|HINGE INDEX THUMB SIDE"]⟩,
  ⟨0x1D8DE, "SIGNWRITING HAND-FIST INDEX THUMB ", [
    "SIDE THUMB DIAGONAL|SIDE THUMB CONJOINED|SIDE THUMB BENT|SIDE INDEX BENT|SIDE BOTH BENT|SIDE INDEX HINGE",
    "FORWARD INDEX STRAIGHT|FORWARD INDEX BENT|HOOK|CURLICUE|CURVE THUMB INSIDE"]⟩,
  ⟨0x1D8E9, "SIGNWRITING HAND-", [
    "CLAW INDEX THUMB CURVE THUMB INSIDE|FIST INDEX THUMB CURVE THUMB UNDER|FIST INDEX THUMB CIRCLE|CUP INDEX THUMB",
    "CUP INDEX THUMB OPEN|HINGE INDEX THUMB OPEN|HINGE INDEX THUMB LARGE|HINGE INDEX THUMB|HINGE INDEX THUMB SMALL",
    "ANGLE INDEX THUMB OUT|ANGLE INDEX THUMB IN|ANGLE INDEX THUMB|FIST THUMB"]⟩,
  ⟨0x1D8F6, "SIGNWRITING HAND-FIST THUMB ", [
    "HEEL|SIDE DIAGONAL|SIDE CONJOINED|SIDE BENT|FORWARD|BETWEEN INDEX MIDDLE|BETWEEN MIDDLE RING",
    "BETWEEN RING LITTLE|UNDER TWO FINGERS|OVER TWO FINGERS|UNDER THREE FINGERS|UNDER FOUR FINGERS",
    "OVER FOUR RAISED KNUCKLES"]⟩,
  ⟨0x1D903, "SIGNWRITING ", [
    "HAND-FIST|HAND-FIST HEEL|TOUCH SINGLE|TOUCH MULTIPLE|TOUCH BETWEEN|GRASP SINGLE|GRASP MULTIPLE|GRASP BETWEEN",
    "STRIKE SINGLE|STRIKE MULTIPLE|STRIKE BETWEEN|BRUSH SINGLE|BRUSH MULTIPLE|BRUSH BETWEEN|RUB SINGLE|RUB MULTIPLE",
    "RUB BETWEEN|SURFACE SYMBOLS|SURFACE BETWEEN|SQUEEZE LARGE SINGLE|SQUEEZE SMALL SINGLE|SQUEEZE LARGE MULTIPLE",
    "SQUEEZE SMALL MULTIPLE|SQUEEZE SEQUENTIAL|FLICK LARGE SINGLE|FLICK SMALL SINGLE|FLICK LARGE MULTIPLE",
    "FLICK SMALL MULTIPLE|FLICK SEQUENTIAL|SQUEEZE FLICK ALTERNATING"]⟩,
  ⟨0x1D921, "SIGNWRITING MOVEMENT-", [
    "HINGE UP DOWN LARGE|HINGE UP DOWN SMALL|HINGE UP SEQUENTIAL|HINGE DOWN SEQUENTIAL",
    "HINGE UP DOWN ALTERNATING LARGE|HINGE UP DOWN ALTERNATING SMALL|HINGE SIDE TO SIDE SCISSORS",
    "WALLPLANE FINGER CONTACT|FLOORPLANE FINGER CONTACT"]⟩,
  ⟨0x1D92A, "SIGNWRITING MOVEMENT-WALLPLANE SINGLE STRAIGHT ", ["SMALL|MEDIUM|LARGE|LARGEST"]⟩,
  ⟨0x1D92E, "SIGNWRITING MOVEMENT-WALLPLANE ", [
    "SINGLE WRIST FLEX|DOUBLE STRAIGHT|DOUBLE WRIST FLEX|DOUBLE ALTERNATING|DOUBLE ALTERNATING WRIST FLEX|CROSS",
    "TRIPLE STRAIGHT MOVEMENT|TRIPLE WRIST FLEX|TRIPLE ALTERNATING|TRIPLE ALTERNATING WRIST FLEX|BEND SMALL",
    "BEND MEDIUM|BEND LARGE|CORNER SMALL|CORNER MEDIUM|CORNER LARGE|CORNER ROTATION|CHECK SMALL|CHECK MEDIUM",
    "CHECK LARGE|BOX SMALL|BOX MEDIUM|BOX LARGE|ZIGZAG SMALL|ZIGZAG MEDIUM|ZIGZAG LARGE|PEAKS SMALL|PEAKS MEDIUM",
    "PEAKS LARGE"]⟩,
  ⟨0x1D94B, "SIGNWRITING TRAVEL-WALLPLANE ROTATION-", [
    "WALLPLANE SINGLE|WALLPLANE DOUBLE|WALLPLANE ALTERNATING|FLOORPLANE SINGLE|FLOORPLANE DOUBLE",
    "FLOORPLANE ALTERNATING"]⟩,
  ⟨0x1D951, "SIGNWRITING TRAVEL-WALLPLANE ", ["SHAKING|ARM SPIRAL SINGLE|ARM SPIRAL DOUBLE|ARM SPIRAL TRIPLE"]⟩,
  ⟨0x1D955, "SIGNWRITING MOVEMENT-DIAGONAL ", [
    "AWAY SMALL|AWAY MEDIUM|AWAY LARGE|AWAY LARGEST|TOWARDS SMALL|TOWARDS MEDIUM|TOWARDS LARGE|TOWARDS LARGEST"]⟩,
  ⟨0x1D95D, "SIGNWRITING MOVEMENT-DIAGONAL BETWEEN ", [
    "AWAY SMALL|AWAY MEDIUM|AWAY LARGE|AWAY LARGEST|TOWARDS SMALL|TOWARDS MEDIUM|TOWARDS LARGE|TOWARDS LARGEST"]⟩,
  ⟨0x1D965, "SIGNWRITING MOVEMENT-FLOORPLANE SINGLE STRAIGHT ", ["SMALL|MEDIUM|LARGE|LARGEST"]⟩,
  ⟨0x1D969, "SIGNWRITING MOVEMENT-FLOORPLANE ", [
    "SINGLE WRIST FLEX|DOUBLE STRAIGHT|DOUBLE WRIST FLEX|DOUBLE ALTERNATING|DOUBLE ALTERNATING WRIST FLEX|CROSS",
    "TRIPLE STRAIGHT MOVEMENT|TRIPLE WRIST FLEX|TRIPLE ALTERNATING MOVEMENT|TRIPLE ALTERNATING WRIST FLEX|BEND",
    "CORNER SMALL|CORNER MEDIUM|CORNER LARGE|CHECK|BOX SMALL|BOX MEDIUM|BOX LARGE|ZIGZAG SMALL|ZIGZAG MEDIUM",
    "ZIGZAG LARGE|PEAKS SMALL|PEAKS MEDIUM|PEAKS LARGE"]⟩,
  ⟨0x1D981, "SIGNWRITING TRAVEL-FLOORPLANE ", [
    "ROTATION-FLOORPLANE SINGLE|ROTATION-FLOORPLANE DOUBLE|ROTATION-FLOORPLANE ALTERNATING",
    "ROTATION-WALLPLANE SINGLE|ROTATION-WALLPLANE DOUBLE|ROTATION-WALLPLANE ALTERNATING|SHAKING"]⟩,
  ⟨0x1D988, "SIGNWRITING MOVEMENT-WALLPLANE CURVE ", [
    "QUARTER SMALL|QUARTER MEDIUM|QUARTER LARGE|QUARTER LARGEST|HALF-CIRCLE SMALL|HALF-CIRCLE MEDIUM",
    "HALF-CIRCLE LARGE|HALF-CIRCLE LARGEST|THREE-QUARTER CIRCLE SMALL|THREE-QUARTER CIRCLE MEDIUM"]⟩,
  ⟨0x1D992, "SIGNWRITING MOVEMENT-WALLPLANE ", [
    "HUMP SMALL|HUMP MEDIUM|HUMP LARGE|LOOP SMALL|LOOP MEDIUM|LOOP LARGE|LOOP SMALL DOUBLE|WAVE CURVE DOUBLE SMALL",
    "WAVE CURVE DOUBLE MEDIUM|WAVE CURVE DOUBLE LARGE|WAVE CURVE TRIPLE SMALL|WAVE CURVE TRIPLE MEDIUM",
    "WAVE CURVE TRIPLE LARGE|CURVE THEN STRAIGHT|CURVED CROSS SMALL|CURVED CROSS MEDIUM"]⟩,
  ⟨0x1D9A2, "SIGNWRITING ROTATION-WALLPLANE ", ["SINGLE|DOUBLE|ALTERNATE"]⟩,
  ⟨0x1D9A5, "SIGNWRITING MOVEMENT-WALLPLANE ", [
    "SHAKING|CURVE HITTING FRONT WALL|HUMP HITTING FRONT WALL|LOOP HITTING FRONT WALL|WAVE HITTING FRONT WALL"]⟩,
  ⟨0x1D9AA, "SIGNWRITING ROTATION-WALLPLANE ", [
    "SINGLE HITTING FRONT WALL|DOUBLE HITTING FRONT WALL|ALTERNATING HITTING FRONT WALL"]⟩,
  ⟨0x1D9AD, "SIGNWRITING MOVEMENT-WALLPLANE ", [
    "CURVE HITTING CHEST|HUMP HITTING CHEST|LOOP HITTING CHEST|WAVE HITTING CHEST"]⟩,
  ⟨0x1D9B1, "SIGNWRITING ROTATION-WALLPLANE ", [
    "SINGLE HITTING CHEST|DOUBLE HITTING CHEST|ALTERNATING HITTING CHEST"]⟩,
  ⟨0x1D9B4, "SIGNWRITING MOVEMENT-WALLPLANE WAVE DIAGONAL PATH ", ["SMALL|MEDIUM|LARGE"]⟩,
  ⟨0x1D9B7, "SIGNWRITING MOVEMENT-FLOORPLANE CURVE HITTING CEILING ", ["SMALL|LARGE"]⟩,
  ⟨0x1D9B9, "SIGNWRITING MOVEMENT-FLOORPLANE HUMP HITTING CEILING ", [
    "SMALL DOUBLE|LARGE DOUBLE|SMALL TRIPLE|LARGE TRIPLE"]⟩,
  ⟨0x1D9BD, "SIGNWRITING MOVEMENT-FLOORPLANE LOOP HITTING CEILING ", [
    "SMALL SINGLE|LARGE SINGLE|SMALL DOUBLE|LARGE DOUBLE"]⟩,
  ⟨0x1D9C1, "SIGNWRITING MOVEMENT-FLOORPLANE WAVE HITTING CEILING ", ["SMALL|LARGE"]⟩,
  ⟨0x1D9C3, "SIGNWRITING ROTATION-FLOORPLANE ", [
    "SINGLE HITTING CEILING|DOUBLE HITTING CEILING|ALTERNATING HITTING CEILING"]⟩,
  ⟨0x1D9C6, "SIGNWRITING MOVEMENT-FLOORPLANE CURVE HITTING FLOOR ", ["SMALL|LARGE"]⟩,
  ⟨0x1D9C8, "SIGNWRITING MOVEMENT-FLOORPLANE HUMP HITTING FLOOR ", [
    "SMALL DOUBLE|LARGE DOUBLE|TRIPLE SMALL TRIPLE|TRIPLE LARGE TRIPLE"]⟩,
  ⟨0x1D9CC, "SIGNWRITING MOVEMENT-FLOORPLANE LOOP HITTING FLOOR ", [
    "SMALL SINGLE|LARGE SINGLE|SMALL DOUBLE|LARGE DOUBLE"]⟩,
  ⟨0x1D9D0, "SIGNWRITING MOVEMENT-FLOORPLANE WAVE HITTING FLOOR ", ["SMALL|LARGE"]⟩,
  ⟨0x1D9D2, "SIGNWRITING ROTATION-FLOORPLANE ", [
    "SINGLE HITTING FLOOR|DOUBLE HITTING FLOOR|ALTERNATING HITTING FLOOR"]⟩,
  ⟨0x1D9D5, "SIGNWRITING MOVEMENT-FLOORPLANE ", [
    "CURVE SMALL|CURVE MEDIUM|CURVE LARGE|CURVE LARGEST|CURVE COMBINED|HUMP SMALL|LOOP SMALL|WAVE SNAKE|WAVE SMALL",
    "WAVE LARGE"]⟩,
  ⟨0x1D9DF, "SIGNWRITING ROTATION-FLOORPLANE ", ["SINGLE|DOUBLE|ALTERNATING"]⟩,
  ⟨0x1D9E2, "SIGNWRITING MOVEMENT-FLOORPLANE SHAKING PARALLEL", [""]⟩,
  ⟨0x1D9E3, "SIGNWRITING MOVEMENT-WALLPLANE ARM CIRCLE ", ["SMALL SINGLE|MEDIUM SINGLE|SMALL DOUBLE|MEDIUM DOUBLE"]⟩,
  ⟨0x1D9E7, "SIGNWRITING MOVEMENT-FLOORPLANE ARM CIRCLE HITTING WALL ", [
    "SMALL SINGLE|MEDIUM SINGLE|LARGE SINGLE|SMALL DOUBLE|MEDIUM DOUBLE|LARGE DOUBLE"]⟩,
  ⟨0x1D9ED, "SIGNWRITING MOVEMENT-WALLPLANE WRIST CIRCLE FRONT ", ["SINGLE|DOUBLE"]⟩,
  ⟨0x1D9EF, "SIGNWRITING MOVEMENT-FLOORPLANE WRIST CIRCLE HITTING WALL ", ["SINGLE|DOUBLE"]⟩,
  ⟨0x1D9F1, "SIGNWRITING MOVEMENT-WALLPLANE FINGER CIRCLES ", ["SINGLE|DOUBLE"]⟩,
  ⟨0x1D9F3, "SIGNWRITING MOVEMENT-FLOORPLANE FINGER CIRCLES HITTING WALL ", ["SINGLE|DOUBLE"]⟩,
  ⟨0x1D9F5, "SIGNWRITING DYNAMIC ", [
    "ARROWHEAD SMALL|ARROWHEAD LARGE|FAST|SLOW|TENSE|RELAXED|SIMULTANEOUS|SIMULTANEOUS ALTERNATING|EVERY OTHER TIME",
    "GRADUAL"]⟩,
  ⟨0x1D9FF, "SIGNWRITING HEAD", [""]⟩,
  ⟨0x1DA00, "SIGNWRITING HEAD ", [
    "RIM|MOVEMENT-WALLPLANE STRAIGHT|MOVEMENT-WALLPLANE TILT|MOVEMENT-FLOORPLANE STRAIGHT|MOVEMENT-WALLPLANE CURVE",
    "MOVEMENT-FLOORPLANE CURVE|MOVEMENT CIRCLE"]⟩,
  ⟨0x1DA07, "SIGNWRITING FACE DIRECTION POSITION NOSE ", ["FORWARD TILTING|UP OR DOWN|UP OR DOWN TILTING"]⟩,
  ⟨0x1DA0A, "SIGNWRITING EYEBROWS STRAIGHT ", ["UP|NEUTRAL|DOWN"]⟩,
  ⟨0x1DA0D, "SIGNWRITING DREAMY EYEBROWS ", ["NEUTRAL DOWN|DOWN NEUTRAL|UP NEUTRAL|NEUTRAL UP"]⟩,
  ⟨0x1DA11, "SIGNWRITING ", [
    "FOREHEAD NEUTRAL|FOREHEAD CONTACT|FOREHEAD WRINKLED|EYES OPEN|EYES SQUEEZED|EYES CLOSED|EYE BLINK SINGLE",
    "EYE BLINK MULTIPLE|EYES HALF OPEN|EYES WIDE OPEN|EYES HALF CLOSED|EYES WIDENING MOVEMENT|EYE WINK|EYELASHES UP",
    "EYELASHES DOWN|EYELASHES FLUTTERING"]⟩,
  ⟨0x1DA21, "SIGNWRITING EYEGAZE-", [
    "WALLPLANE STRAIGHT|WALLPLANE STRAIGHT DOUBLE|WALLPLANE STRAIGHT ALTERNATING|FLOORPLANE STRAIGHT",
    "FLOORPLANE STRAIGHT DOUBLE|FLOORPLANE STRAIGHT ALTERNATING|WALLPLANE CURVED|FLOORPLANE CURVED",
    "WALLPLANE CIRCLING"]⟩,
  ⟨0x1DA2A, "SIGNWRITING ", [
    "CHEEKS PUFFED|CHEEKS NEUTRAL|CHEEKS SUCKED|TENSE CHEEKS HIGH|TENSE CHEEKS MIDDLE|TENSE CHEEKS LOW|EARS",
    "NOSE NEUTRAL|NOSE CONTACT|NOSE WRINKLES|NOSE WIGGLES|AIR BLOWING OUT|AIR SUCKING IN|AIR BLOW SMALL ROTATIONS",
    "AIR SUCK SMALL ROTATIONS|BREATH INHALE|BREATH EXHALE"]⟩,
  ⟨0x1DA3B, "SIGNWRITING MOUTH ", [
    "CLOSED NEUTRAL|CLOSED FORWARD|CLOSED CONTACT|SMILE|SMILE WRINKLED|SMILE OPEN|FROWN|FROWN WRINKLED|FROWN OPEN",
    "OPEN CIRCLE|OPEN FORWARD|OPEN WRINKLED|OPEN OVAL|OPEN OVAL WRINKLED|OPEN OVAL YAWN|OPEN RECTANGLE",
    "OPEN RECTANGLE WRINKLED|OPEN RECTANGLE YAWN|KISS|KISS FORWARD|KISS WRINKLED|TENSE|TENSE FORWARD|TENSE SUCKED"]⟩,
  ⟨0x1DA53, "SIGNWRITING ", [
    "LIPS PRESSED TOGETHER|LIP LOWER OVER UPPER|LIP UPPER OVER LOWER|MOUTH CORNERS|MOUTH WRINKLES SINGLE",
    "MOUTH WRINKLES DOUBLE|TONGUE STICKING OUT FAR|TONGUE LICKING LIPS|TONGUE TIP BETWEEN LIPS",
    "TONGUE TIP TOUCHING INSIDE MOUTH|TONGUE INSIDE MOUTH RELAXED|TONGUE MOVES AGAINST CHEEK",
    "TONGUE CENTRE STICKING OUT|TONGUE CENTRE INSIDE MOUTH|TEETH|TEETH MOVEMENT|TEETH ON TONGUE",
    "TEETH ON TONGUE MOVEMENT|TEETH ON LIPS|TEETH ON LIPS MOVEMENT|TEETH BITE LIPS|MOVEMENT-WALLPLANE JAW",
    "MOVEMENT-FLOORPLANE JAW|NECK|HAIR|EXCITEMENT|SHOULDER HIP SPINE|SHOULDER HIP POSITIONS",
    "WALLPLANE SHOULDER HIP MOVE|FLOORPLANE SHOULDER HIP MOVE|SHOULDER TILTING FROM WAIST",
    "TORSO-WALLPLANE STRAIGHT STRETCH|TORSO-WALLPLANE CURVED BEND|TORSO-FLOORPLANE TWISTING",
    "UPPER BODY TILTING FROM HIP JOINTS|LIMB COMBINATION"]⟩,
  ⟨0x1DA77, "SIGNWRITING LIMB LENGTH-", ["1|2|3|4|5|6|7"]⟩,
  ⟨0x1DA7E, "SIGNWRITING ", [
    "FINGER|LOCATION-WALLPLANE SPACE|LOCATION-FLOORPLANE SPACE|LOCATION HEIGHT|LOCATION WIDTH|LOCATION DEPTH",
    "LOCATION HEAD NECK|LOCATION TORSO|LOCATION LIMBS DIGITS|COMMA|FULL STOP|SEMICOLON|COLON|PARENTHESIS"]⟩,
  ⟨0x1DA9B, "SIGNWRITING FILL MODIFIER-", ["2|3|4|5|6"]⟩,
  ⟨0x1DAA1, "SIGNWRITING ROTATION MODIFIER-", ["2|3|4|5|6|7|8|9|10|11|12|13|14|15|16"]⟩,
  ⟨0x1DF00, "LATIN ", [
    "SMALL LETTER FENG DIGRAPH WITH TRILL|SMALL LETTER REVERSED SCRIPT G|LETTER SMALL CAPITAL TURNED G",
    "SMALL LETTER REVERSED K|LETTER SMALL CAPITAL L WITH BELT"]⟩,
  ⟨0x1DF05, "LATIN SMALL LETTER ", [
    "LEZH WITH RETROFLEX HOOK|TURNED Y WITH BELT|REVERSED ENG|TURNED R WITH LONG LEG AND RETROFLEX HOOK",
    "T WITH HOOK AND RETROFLEX HOOK"]⟩,
  ⟨0x1DF0A, "LATIN ", [
    "LETTER RETROFLEX CLICK WITH RETROFLEX HOOK|SMALL LETTER ESH WITH DOUBLE BAR",
    "SMALL LETTER ESH WITH DOUBLE BAR AND CURL|SMALL LETTER TURNED T WITH CURL",
    "LETTER INVERTED GLOTTAL STOP WITH CURL|LETTER STRETCHED C WITH CURL|LETTER SMALL CAPITAL TURNED K"]⟩,
  ⟨0x1DF11, "LATIN SMALL LETTER ", [
    "L WITH FISHHOOK|DEZH DIGRAPH WITH PALATAL HOOK|L WITH BELT AND PALATAL HOOK|ENG WITH PALATAL HOOK",
    "TURNED R WITH PALATAL HOOK|R WITH FISHHOOK AND PALATAL HOOK|TESH DIGRAPH WITH PALATAL HOOK",
    "EZH WITH PALATAL HOOK|DEZH DIGRAPH WITH RETROFLEX HOOK|I WITH STROKE AND RETROFLEX HOOK|O WITH RETROFLEX HOOK",
    "TESH DIGRAPH WITH RETROFLEX HOOK|C WITH RETROFLEX HOOK|S WITH CURL"]⟩]

/-- From U+1E000 to U+1F2FF. -/
def from1E000 : List NameRun := [
  ⟨0x1E000, "COMBINING GLAGOLITIC LETTER ", ["AZU|BUKY|VEDE|GLAGOLI|DOBRO|YESTU|ZHIVETE"]⟩,
  ⟨0x1E008, "COMBINING GLAGOLITIC LETTER ", [
    "ZEMLJA|IZHE|INITIAL IZHE|I|DJERVI|KAKO|LJUDIJE|MYSLITE|NASHI|ONU|POKOJI|RITSI|SLOVO|TVRIDO|UKU|FRITU|HERU"]⟩,
  ⟨0x1E01B, "COMBINING GLAGOLITIC LETTER ", ["SHTA|TSI|CHRIVI|SHA|YERU|YERI|YATI"]⟩,
  ⟨0x1E023, "COMBINING GLAGOLITIC LETTER ", ["YU|SMALL YUS"]⟩,
  ⟨0x1E026, "COMBINING GLAGOLITIC LETTER ", ["YO|IOTATED SMALL YUS|BIG YUS|IOTATED BIG YUS|FITA"]⟩,
  ⟨0x1E100, "NYIAKENG PUACHUE HMONG LETTER ", [
    "MA|TSA|NTA|TA|HA|NA|XA|NKA|CA|LA|SA|ZA|NCA|NTSA|KA|DA|NYA|NRA|VA|NTXA|TXA|FA|RA|QA|YA|NQA|PA|XYA|NPA|DLA|NPLA",
    "HAH|MLA|PLA|GA|RRA|A|AA|I|U|O|OO|E|EE|W"]⟩,
  ⟨0x1E130, "NYIAKENG PUACHUE HMONG ", [
    "TONE-B|TONE-M|TONE-J|TONE-V|TONE-S|TONE-G|TONE-D|SIGN FOR PERSON|SIGN FOR THING|SIGN FOR LOCATION",
    "SIGN FOR ANIMAL|SIGN FOR INVERTEBRATE|SIGN XW XW|SYLLABLE LENGTHENER"]⟩,
  ⟨0x1E140, "NYIAKENG PUACHUE HMONG DIGIT ", ["ZERO|ONE|TWO|THREE|FOUR|FIVE|SIX|SEVEN|EIGHT|NINE"]⟩,
  ⟨0x1E14E, "NYIAKENG PUACHUE HMONG ", ["LOGOGRAM NYAJ|CIRCLED CA"]⟩,
  ⟨0x1E290, "TOTO LETTER ", [
    "PA|BA|TA|DA|KA|GA|MA|NA|NGA|SA|CHA|YA|WA|JA|HA|RA|LA|I|BREATHY I|IU|BREATHY IU|U|E|BREATHY E|EO|BREATHY EO|O",
    "AE|BREATHY AE|A"]⟩,
  ⟨0x1E2AE, "TOTO SIGN RISING TONE", [""]⟩,
  ⟨0x1E2C0, "WANCHO LETTER ", [
    "AA|A|BA|CA|DA|GA|YA|PHA|LA|NA|PA|TA|THA|FA|SA|SHA|JA|ZA|WA|VA|KA|O|AU|RA|MA|KHA|HA|E|I|NGA|U|LLHA|TSA|TRA|ONG",
    "AANG|ANG|ING|ON|EN|AAN|NYA|UEN|YIH"]⟩,
  ⟨0x1E2EC, "WANCHO TONE ", ["TUP|TUPNI|KOI|KOINI"]⟩,
  ⟨0x1E2F0, "WANCHO DIGIT ", ["ZERO|ONE|TWO|THREE|FOUR|FIVE|SIX|SEVEN|EIGHT|NINE"]⟩,
  ⟨0x1E2FF, "WANCHO NGUN SIGN", [""]⟩,
  ⟨0x1E7E0, "ETHIOPIC SYLLABLE ", ["HHYA|HHYU|HHYI|HHYAA|HHYEE|HHYE|HHYO"]⟩,
  ⟨0x1E7E8, "ETHIOPIC SYLLABLE ", ["GURAGE HHWA|HHWI|HHWEE|HHWE"]⟩,
  ⟨0x1E7ED, "ETHIOPIC SYLLABLE GURAGE ", ["MWI|MWEE"]⟩,
  ⟨0x1E7F0, "ETHIOPIC SYLLABLE GURAGE ", ["QWI|QWEE|QWE|BWI|BWEE|KWI|KWEE|KWE|GWI|GWEE|GWE|FWI|FWEE|PWI|PWEE"]⟩,
  ⟨0x1E800, "MENDE KIKAKUI SYLLABLE ", [
    "M001 KI|M002 KA|M003 KU|M065 KEE|M095 KE|M076 KOO|M048 KO|M179 KUA|M004 WI|M005 WA|M006 WU|M126 WEE|M118 WE",
    "M114 WOO|M045 WO|M194 WUI|M143 WEI|M061 WVI|M049 WVA|M139 WVE|M007 MIN|M008 MAN|M009 MUN|M059 MEN|M094 MON",
    "M154 MUAN|M189 MUEN|M010 BI|M011 BA|M012 BU|M150 BEE|M097 BE|M103 BOO|M138 BO|M013 I|M014 A|M015 U|M163 EE",
    "M100 E|M165 OO|M147 O|M137 EI|M131 IN|M135 IN|M195 AN|M178 EN|M019 SI|M020 SA|M021 SU|M162 SEE|M116 SE",
    "M136 SOO|M079 SO|M196 SIA|M025 LI|M026 LA|M027 LU|M084 LEE|M073 LE|M054 LOO|M153 LO|M110 LONG LE|M016 DI",
    "M017 DA|M018 DU|M089 DEE|M180 DOO|M181 DO|M022 TI|M023 TA|M024 TU|M091 TEE|M055 TE|M104 TOO|M069 TO|M028 JI",
    "M029 JA|M030 JU|M157 JEE|M113 JE|M160 JOO|M063 JO|M175 LONG JO|M031 YI|M032 YA|M033 YU|M109 YEE|M080 YE",
    "M141 YOO|M121 YO|M034 FI|M035 FA|M036 FU|M078 FEE|M075 FE|M133 FOO|M088 FO|M197 FUA|M101 FAN|M037 NIN|M038 NAN",
    "M039 NUN|M117 NEN|M169 NON|M176 HI|M041 HA|M186 HU|M040 HEE|M096 HE|M042 HOO|M140 HO|M083 HEEI|M128 HOOU",
    "M053 HIN|M130 HAN|M087 HUN|M052 HEN|M193 HON|M046 HUAN|M090 NGGI|M043 NGGA|M082 NGGU|M115 NGGEE|M146 NGGE",
    "M156 NGGOO|M120 NGGO|M159 NGGAA|M127 NGGUA|M086 LONG NGGE|M106 LONG NGGOO|M183 LONG NGGO|M155 GI|M111 GA",
    "M168 GU|M190 GEE|M166 GUEI|M167 GUAN|M184 NGEN|M057 NGON|M177 NGUAN|M068 PI|M099 PA|M050 PU|M081 PEE|M051 PE",
    "M102 POO|M066 PO|M145 MBI|M062 MBA|M122 MBU|M047 MBEE|M188 MBEE|M072 MBE|M172 MBOO|M174 MBO|M187 MBUU",
    "M161 LONG MBE|M105 LONG MBOO|M142 LONG MBO|M132 KPI|M092 KPA|M074 KPU|M044 KPEE|M108 KPE|M112 KPOO|M158 KPO",
    "M124 GBI|M056 GBA|M148 GBU|M093 GBEE|M107 GBE|M071 GBOO|M070 GBO|M171 RA|M123 NDI|M129 NDA|M125 NDU|M191 NDEE",
    "M119 NDE|M067 NDOO|M064 NDO|M152 NJA|M192 NJU|M149 NJEE|M134 NJOO|M182 VI|M185 VA|M151 VU|M173 VEE|M085 VE",
    "M144 VOO|M077 VO|M164 NYIN|M058 NYAN|M170 NYUN|M098 NYEN|M060 NYON"]⟩,
  ⟨0x1E8C7, "MENDE KIKAKUI DIGIT ", ["ONE|TWO|THREE|FOUR|FIVE|SIX|SEVEN|EIGHT|NINE"]⟩,
  ⟨0x1E8D0, "MENDE KIKAKUI COMBINING NUMBER ", [
    "TEENS|TENS|HUNDREDS|THOUSANDS|TEN THOUSANDS|HUNDRED THOUSANDS|MILLIONS"]⟩,
  ⟨0x1E900, "ADLAM CAPITAL LETTER ", [
    "ALIF|DAALI|LAAM|MIIM|BA|SINNYIIYHE|PE|BHE|RA|E|FA|I|O|DHA|YHE|WAW|NUN|KAF|YA|U|JIIM|CHI|HA|QAAF|GA|NYA|TU|NHA",
    "VA|KHA|GBE|ZAL|KPO|SHA"]⟩,
  ⟨0x1E922, "ADLAM SMALL LETTER ", [
    "ALIF|DAALI|LAAM|MIIM|BA|SINNYIIYHE|PE|BHE|RA|E|FA|I|O|DHA|YHE|WAW|NUN|KAF|YA|U|JIIM|CHI|HA|QAAF|GA|NYA|TU|NHA",
    "VA|KHA|GBE|ZAL|KPO|SHA"]⟩,
  ⟨0x1E944, "ADLAM ", [
    "ALIF LENGTHENER|VOWEL LENGTHENER|GEMINATION MARK|HAMZA|CONSONANT MODIFIER|GEMINATE CONSONANT MODIFIER|NUKTA",
    "NASALIZATION MARK"]⟩,
  ⟨0x1E950, "ADLAM DIGIT ", ["ZERO|ONE|TWO|THREE|FOUR|FIVE|SIX|SEVEN|EIGHT|NINE"]⟩,
  ⟨0x1E95E, "ADLAM INITIAL ", ["EXCLAMATION MARK|QUESTION MARK"]⟩,
  ⟨0x1EC71, "INDIC SIYAQ NUMBER ", [
    "ONE|TWO|THREE|FOUR|FIVE|SIX|SEVEN|EIGHT|NINE|TEN|TWENTY|THIRTY|FORTY|FIFTY|SIXTY|SEVENTY|EIGHTY|NINETY",
    "ONE HUNDRED|TWO HUNDRED|THREE HUNDRED|FOUR HUNDRED|FIVE HUNDRED|SIX HUNDRED|SEVEN HUNDRED|EIGHT HUNDRED",
    "NINE HUNDRED|ONE THOUSAND|TWO THOUSAND|THREE THOUSAND|FOUR THOUSAND|FIVE THOUSAND|SIX THOUSAND|SEVEN THOUSAND",
    "EIGHT THOUSAND|NINE THOUSAND|TEN THOUSAND|TWENTY THOUSAND|THIRTY THOUSAND|FORTY THOUSAND|FIFTY THOUSAND",
    "SIXTY THOUSAND|SEVENTY THOUSAND|EIGHTY THOUSAND|NINETY THOUSAND|LAKH|LAKHAN"]⟩,
  ⟨0x1ECA0, "INDIC SIYAQ ", ["LAKH MARK|NUMBER KAROR|NUMBER KARORAN"]⟩,
  ⟨0x1ECA3, "INDIC SIYAQ NUMBER PREFIXED ", ["ONE|TWO|THREE|FOUR|FIVE|SIX|SEVEN|EIGHT|NINE"]⟩,
  ⟨0x1ECAC, "INDIC SIYAQ ", [
    "PLACEHOLDER|FRACTION ONE QUARTER|FRACTION ONE HALF|FRACTION THREE QUARTERS|RUPEE MARK|NUMBER ALTERNATE ONE",
    "NUMBER ALTERNATE TWO|NUMBER ALTERNATE TEN THOUSAND|ALTERNATE LAKH MARK"]⟩,
  ⟨0x1ED01, "OTTOMAN SIYAQ NUMBER ", [
    "ONE|TWO|THREE|FOUR|FIVE|SIX|SEVEN|EIGHT|NINE|TEN|TWENTY|THIRTY|FORTY|FIFTY|SIXTY|SEVENTY|EIGHTY|NINETY",
    "ONE HUNDRED|TWO HUNDRED|THREE HUNDRED|FOUR HUNDRED|FIVE HUNDRED|SIX HUNDRED|SEVEN HUNDRED|EIGHT HUNDRED",
    "NINE HUNDRED|ONE THOUSAND|TWO THOUSAND|THREE THOUSAND|FOUR THOUSAND|FIVE THOUSAND|SIX THOUSAND|SEVEN THOUSAND",
    "EIGHT THOUSAND|NINE THOUSAND|TEN THOUSAND|TWENTY THOUSAND|THIRTY THOUSAND|FORTY THOUSAND|FIFTY THOUSAND",
    "SIXTY THOUSAND|SEVENTY THOUSAND|EIGHTY THOUSAND|NINETY THOUSAND"]⟩,
  ⟨0x1ED2E, "OTTOMAN SIYAQ MARRATAN", [""]⟩,
  ⟨0x1ED2F, "OTTOMAN SIYAQ ALTERNATE NUMBER ", [
    "TWO|THREE|FOUR|FIVE|SIX|SEVEN|EIGHT|NINE|TEN|FOUR HUNDRED|SIX HUNDRED|TWO THOUSAND|TEN THOUSAND"]⟩,
  ⟨0x1ED3C, "OTTOMAN SIYAQ FRACTION ONE ", ["HALF|SIXTH"]⟩,
  ⟨0x1EE00, "ARABIC MATHEMATICAL ", ["ALEF|BEH|JEEM|DAL"]⟩,
  ⟨0x1EE05, "ARABIC MATHEMATICAL ", [
    "WAW|ZAIN|HAH|TAH|YEH|KAF|LAM|MEEM|NOON|SEEN|AIN|FEH|SAD|QAF|REH|SHEEN|TEH|THEH|KHAH|THAL|DAD|ZAH|GHAIN",
    "DOTLESS BEH|DOTLESS NOON|DOTLESS FEH|DOTLESS QAF"]⟩,
  ⟨0x1EE21, "ARABIC MATHEMATICAL INITIAL ", ["BEH|JEEM"]⟩,
  ⟨0x1EE24, "ARABIC MATHEMATICAL INITIAL HEH", [""]⟩,
  ⟨0x1EE27, "ARABIC MATHEMATICAL INITIAL HAH", [""]⟩,
  ⟨0x1EE29, "ARABIC MATHEMATICAL INITIAL ", ["YEH|KAF|LAM|MEEM|NOON|SEEN|AIN|FEH|SAD|QAF"]⟩,
  ⟨0x1EE34, "ARABIC MATHEMATICAL INITIAL ", ["SHEEN|TEH|THEH|KHAH"]⟩,
  ⟨0x1EE39, "ARABIC MATHEMATICAL INITIAL DAD", [""]⟩,
  ⟨0x1EE3B, "ARABIC MATHEMATICAL INITIAL GHAIN", [""]⟩,
  ⟨0x1EE42, "ARABIC MATHEMATICAL TAILED JEEM", [""]⟩,
  ⟨0x1EE47, "ARABIC MATHEMATICAL TAILED HAH", [""]⟩,
  ⟨0x1EE49, "ARABIC MATHEMATICAL TAILED YEH", [""]⟩,
  ⟨0x1EE4B, "ARABIC MATHEMATICAL TAILED LAM", [""]⟩,
  ⟨0x1EE4D, "ARABIC MATHEMATICAL TAILED ", ["NOON|SEEN|AIN"]⟩,
  ⟨0x1EE51, "ARABIC MATHEMATICAL TAILED ", ["SAD|QAF"]⟩,
  ⟨0x1EE54, "ARABIC MATHEMATICAL TAILED SHEEN", [""]⟩,
  ⟨0x1EE57, "ARABIC MATHEMATICAL TAILED KHAH", [""]⟩,
  ⟨0x1EE59, "ARABIC MATHEMATICAL TAILED DAD", [""]⟩,
  ⟨0x1EE5B, "ARABIC MATHEMATICAL TAILED GHAIN", [""]⟩,
  ⟨0x1EE5D, "ARABIC MATHEMATICAL TAILED DOTLESS NOON", [""]⟩,
  ⟨0x1EE5F, "ARABIC MATHEMATICAL TAILED DOTLESS QAF", [""]⟩,
  ⟨0x1EE61, "ARABIC MATHEMATICAL STRETCHED ", ["BEH|JEEM"]⟩,
  ⟨0x1EE64, "ARABIC MATHEMATICAL STRETCHED HEH", [""]⟩,
  ⟨0x1EE67, "ARABIC MATHEMATICAL STRETCHED ", ["HAH|TAH|YEH|KAF"]⟩,
  ⟨0x1EE6C, "ARABIC MATHEMATICAL STRETCHED ", ["MEEM|NOON|SEEN|AIN|FEH|SAD|QAF"]⟩,
  ⟨0x1EE74, "ARABIC MATHEMATICAL STRETCHED ", ["SHEEN|TEH|THEH|KHAH"]⟩,
  ⟨0x1EE79, "ARABIC MATHEMATICAL STRETCHED ", ["DAD|ZAH|GHAIN|DOTLESS BEH"]⟩,
  ⟨0x1EE7E, "ARABIC MATHEMATICAL STRETCHED DOTLESS FEH", [""]⟩,
  ⟨0x1EE80, "ARABIC MATHEMATICAL LOOPED ", ["ALEF|BEH|JEEM|DAL|HEH|WAW|ZAIN|HAH|TAH|YEH"]⟩,
  ⟨0x1EE8B, "ARABIC MATHEMATICAL LOOPED ", [
    "LAM|MEEM|NOON|SEEN|AIN|FEH|SAD|QAF|REH|SHEEN|TEH|THEH|KHAH|THAL|DAD|ZAH|GHAIN"]⟩,
  ⟨0x1EEA1, "ARABIC MATHEMATICAL DOUBLE-STRUCK ", ["BEH|JEEM|DAL"]⟩,
  ⟨0x1EEA5, "ARABIC MATHEMATICAL DOUBLE-STRUCK ", ["WAW|ZAIN|HAH|TAH|YEH"]⟩,
  ⟨0x1EEAB, "ARABIC MATHEMATICAL DOUBLE-STRUCK ", [
    "LAM|MEEM|NOON|SEEN|AIN|FEH|SAD|QAF|REH|SHEEN|TEH|THEH|KHAH|THAL|DAD|ZAH|GHAIN"]⟩,
  ⟨0x1EEF0, "ARABIC MATHEMATICAL OPERATOR ", ["MEEM WITH HAH WITH TATWEEL|HAH WITH DAL"]⟩,
  ⟨0x1F000, "MAHJONG TILE ", [
    "EAST WIND|SOUTH WIND|WEST WIND|NORTH WIND|RED DRAGON|GREEN DRAGON|WHITE DRAGON|ONE OF CHARACTERS",
    "TWO OF CHARACTERS|THREE OF CHARACTERS|FOUR OF CHARACTERS|FIVE OF CHARACTERS|SIX OF CHARACTERS",
    "SEVEN OF CHARACTERS|EIGHT OF CHARACTERS|NINE OF CHARACTERS|ONE OF BAMBOOS|TWO OF BAMBOOS|THREE OF BAMBOOS",
    "FOUR OF BAMBOOS|FIVE OF BAMBOOS|SIX OF BAMBOOS|SEVEN OF BAMBOOS|EIGHT OF BAMBOOS|NINE OF BAMBOOS",
    "ONE OF CIRCLES|TWO OF CIRCLES|THREE OF CIRCLES|FOUR OF CIRCLES|FIVE OF CIRCLES|SIX OF CIRCLES|SEVEN OF CIRCLES",
    "EIGHT OF CIRCLES|NINE OF CIRCLES|PLUM|ORCHID|BAMBOO|CHRYSANTHEMUM|SPRING|SUMMER|AUTUMN|WINTER|JOKER|BACK"]⟩,
  ⟨0x1F030, "DOMINO TILE HORIZONTAL BACK", [""]⟩,
  ⟨0x1F031, "DOMINO TILE HORIZONTAL-", [
    "00-00|00-01|00-02|00-03|00-04|00-05|00-06|01-00|01-01|01-02|01-03|01-04|01-05|01-06|02-00|02-01|02-02|02-03",
    "02-04|02-05|02-06|03-00|03-01|03-02|03-03|03-04|03-05|03-06|04-00|04-01|04-02|04-03|04-04|04-05|04-06|05-00",
    "05-01|05-02|05-03|05-04|05-05|05-06|06-00|06-01|06-02|06-03|06-04|06-05|06-06"]⟩,
  ⟨0x1F062, "DOMINO TILE VERTICAL BACK", [""]⟩,
  ⟨0x1F063, "DOMINO TILE VERTICAL-", [
    "00-00|00-01|00-02|00-03|00-04|00-05|00-06|01-00|01-01|01-02|01-03|01-04|01-05|01-06|02-00|02-01|02-02|02-03",
    "02-04|02-05|02-06|03-00|03-01|03-02|03-03|03-04|03-05|03-06|04-00|04-01|04-02|04-03|04-04|04-05|04-06|05-00",
    "05-01|05-02|05-03|05-04|05-05|05-06|06-00|06-01|06-02|06-03|06-04|06-05|06-06"]⟩,
  ⟨0x1F0A0, "PLAYING CARD ", [
    "BACK|ACE OF SPADES|TWO OF SPADES|THREE OF SPADES|FOUR OF SPADES|FIVE OF SPADES|SIX OF SPADES|SEVEN OF SPADES",
    "EIGHT OF SPADES|NINE OF SPADES|TEN OF SPADES|JACK OF SPADES|KNIGHT OF SPADES|QUEEN OF SPADES|KING OF SPADES"]⟩,
  ⟨0x1F0B1, "PLAYING CARD ", [
    "ACE OF HEARTS|TWO OF HEARTS|THREE OF HEARTS|FOUR OF HEARTS|FIVE OF HEARTS|SIX OF HEARTS|SEVEN OF HEARTS",
    "EIGHT OF HEARTS|NINE OF HEARTS|TEN OF HEARTS|JACK OF HEARTS|KNIGHT OF HEARTS|QUEEN OF HEARTS|KING OF HEARTS",
    "RED JOKER"]⟩,
  ⟨0x1F0C1, "PLAYING CARD ", [
    "ACE OF DIAMONDS|TWO OF DIAMONDS|THREE OF DIAMONDS|FOUR OF DIAMONDS|FIVE OF DIAMONDS|SIX OF DIAMONDS",
    "SEVEN OF DIAMONDS|EIGHT OF DIAMONDS|NINE OF DIAMONDS|TEN OF DIAMONDS|JACK OF DIAMONDS|KNIGHT OF DIAMONDS",
    "QUEEN OF DIAMONDS|KING OF DIAMONDS|BLACK JOKER"]⟩,
  ⟨0x1F0D1, "PLAYING CARD ", [
    "ACE OF CLUBS|TWO OF CLUBS|THREE OF CLUBS|FOUR OF CLUBS|FIVE OF CLUBS|SIX OF CLUBS|SEVEN OF CLUBS",
    "EIGHT OF CLUBS|NINE OF CLUBS|TEN OF CLUBS|JACK OF CLUBS|KNIGHT OF CLUBS|QUEEN OF CLUBS|KING OF CLUBS",
    "WHITE JOKER|FOOL"]⟩,
  ⟨0x1F0E1, "PLAYING CARD TRUMP-", ["1|2|3|4|5|6|7|8|9|10|11|12|13|14|15|16|17|18|19|20|21"]⟩,
  ⟨0x1F100, "DIGIT ", [
    "ZERO FULL STOP|ZERO COMMA|ONE COMMA|TWO COMMA|THREE COMMA|FOUR COMMA|FIVE COMMA|SIX COMMA|SEVEN COMMA",
    "EIGHT COMMA|NINE COMMA"]⟩,
  ⟨0x1F10B, "DINGBAT ", ["CIRCLED SANS-SERIF DIGIT ZERO|NEGATIVE CIRCLED SANS-SERIF DIGIT ZERO"]⟩,
  ⟨0x1F10D, "CIRCLED ", ["ZERO WITH SLASH|ANTICLOCKWISE ARROW|DOLLAR SIGN WITH OVERLAID BACKSLASH"]⟩,
  ⟨0x1F110, "PARENTHESIZED LATIN CAPITAL LETTER ", ["A|B|C|D|E|F|G|H|I|J|K|L|M|N|O|P|Q|R|S|T|U|V|W|X|Y|Z"]⟩,
  ⟨0x1F12A, "TORTOISE SHELL BRACKETED LATIN CAPITAL LETTER S", [""]⟩,
  ⟨0x1F12B, "CIRCLED ITALIC LATIN CAPITAL LETTER ", ["C|R"]⟩,
  ⟨0x1F12D, "", ["CIRCLED CD|CIRCLED WZ|COPYLEFT SYMBOL"]⟩,
  ⟨0x1F130, "SQUARED LATIN CAPITAL LETTER ", ["A|B|C|D|E|F|G|H|I|J|K|L|M|N|O|P|Q|R|S|T|U|V|W|X|Y|Z"]⟩,
  ⟨0x1F14A, "SQUARED ", ["HV|MV|SD|SS|PPV|WC"]⟩,
  ⟨0x1F150, "NEGATIVE CIRCLED LATIN CAPITAL LETTER ", ["A|B|C|D|E|F|G|H|I|J|K|L|M|N|O|P|Q|R|S|T|U|V|W|X|Y|Z"]⟩,
  ⟨0x1F16A, "RAISED ", ["MC SIGN|MD SIGN|MR SIGN"]⟩,
  ⟨0x1F16D, "CIRCLED ", ["CC|C WITH OVERLAID BACKSLASH|HUMAN FIGURE"]⟩,
  ⟨0x1F170, "NEGATIVE SQUARED LATIN CAPITAL LETTER ", ["A|B|C|D|E|F|G|H|I|J|K|L|M|N|O|P|Q|R|S|T|U|V|W|X|Y|Z"]⟩,
  ⟨0x1F18A, "CROSSED NEGATIVE SQUARED LATIN CAPITAL LETTER P", [""]⟩,
  ⟨0x1F18B, "NEGATIVE SQUARED ", ["IC|PA|SA|AB|WC"]⟩,
  ⟨0x1F190, "SQUARE DJ", [""]⟩,
  ⟨0x1F191, "SQUARED ", [
    "CL|COOL|FREE|ID|NEW|NG|OK|SOS|UP WITH EXCLAMATION MARK|VS|THREE D|SECOND SCREEN|TWO K|FOUR K|EIGHT K",
    "FIVE POINT ONE|SEVEN POINT ONE|TWENTY-TWO POINT TWO|SIXTY P|ONE HUNDRED TWENTY P|LATIN SMALL LETTER D|HC|HDR",
    "HI-RES|LOSSLESS|SHV|UHD|VOD"]⟩,
  ⟨0x1F1AD, "MASK WORK SYMBOL", [""]⟩,
  ⟨0x1F1E6, "REGIONAL INDICATOR SYMBOL LETTER ", ["A|B|C|D|E|F|G|H|I|J|K|L|M|N|O|P|Q|R|S|T|U|V|W|X|Y|Z"]⟩,
  ⟨0x1F200, "SQUARE HIRAGANA HOKA", [""]⟩,
  ⟨0x1F201, "SQUARED KATAKANA ", ["KOKO|SA"]⟩,
  ⟨0x1F210, "SQUARED CJK UNIFIED IDEOGRAPH-", ["624B|5B57|53CC"]⟩,
  ⟨0x1F213, "SQUARED KATAKANA DE", [""]⟩,
  ⟨0x1F214, "SQUARED CJK UNIFIED IDEOGRAPH-", [
    "4E8C|591A|89E3|5929|4EA4|6620|7121|6599|524D|5F8C|518D|65B0|521D|7D42|751F|8CA9|58F0|5439|6F14|6295|6355|4E00",
    "4E09|904A|5DE6|4E2D|53F3|6307|8D70|6253|7981|7A7A|5408|6E80|6709|6708|7533|5272|55B6|914D"]⟩,
  ⟨0x1F240, "TORTOISE SHELL BRACKETED CJK UNIFIED IDEOGRAPH-", ["672C|4E09|4E8C|5B89|70B9|6253|76D7|52DD|6557"]⟩,
  ⟨0x1F250, "CIRCLED IDEOGRAPH ", ["ADVANTAGE|ACCEPT"]⟩,
  ⟨0x1F260, "ROUNDED SYMBOL FOR ", ["FU|LU|SHOU|XI|SHUANGXI|CAI"]⟩]

/-- From U+1F300 to U+10FFFF. -/
def from1F300 : List NameRun := [
  ⟨0x1F300, "", [
    "CYCLONE|FOGGY|CLOSED UMBRELLA|NIGHT WITH STARS|SUNRISE OVER MOUNTAINS|SUNRISE|CITYSCAPE AT DUSK",
    "SUNSET OVER BUILDINGS|RAINBOW|BRIDGE AT NIGHT|WATER WAVE|VOLCANO|MILKY WAY|EARTH GLOBE EUROPE-AFRICA",
    "EARTH GLOBE AMERICAS|EARTH GLOBE ASIA-AUSTRALIA|GLOBE WITH MERIDIANS|NEW MOON SYMBOL",
    "WAXING CRESCENT MOON SYMBOL|FIRST QUARTER MOON SYMBOL|WAXING GIBBOUS MOON SYMBOL|FULL MOON SYMBOL",
    "WANING GIBBOUS MOON SYMBOL|LAST QUARTER MOON SYMBOL|WANING CRESCENT MOON SYMBOL|CRESCENT MOON",
    "NEW MOON WITH FACE|FIRST QUARTER MOON WITH FACE|LAST QUARTER MOON WITH FACE|FULL MOON WITH FACE|SUN WITH FACE",
    "GLOWING STAR|SHOOTING STAR|THERMOMETER|BLACK DROPLET|WHITE SUN"]⟩,
  ⟨0x1F324, "WHITE SUN ", ["WITH SMALL CLOUD|BEHIND CLOUD|BEHIND CLOUD WITH RAIN"]⟩,
  ⟨0x1F327, "CLOUD WITH ", ["RAIN|SNOW|LIGHTNING|TORNADO"]⟩,
  ⟨0x1F32B, "", [
    "FOG|WIND BLOWING FACE|HOT DOG|TACO|BURRITO|CHESTNUT|SEEDLING|EVERGREEN TREE|DECIDUOUS TREE|PALM TREE|CACTUS",
    "HOT PEPPER|TULIP|CHERRY BLOSSOM|ROSE|HIBISCUS|SUNFLOWER|BLOSSOM|EAR OF MAIZE|EAR OF RICE|HERB|FOUR LEAF CLOVER",
    "MAPLE LEAF|FALLEN LEAF|LEAF FLUTTERING IN WIND|MUSHROOM|TOMATO|AUBERGINE|GRAPES|MELON|WATERMELON|TANGERINE",
    "LEMON|BANANA|PINEAPPLE|RED APPLE|GREEN APPLE|PEAR|PEACH|CHERRIES|STRAWBERRY|HAMBURGER|SLICE OF PIZZA",
    "MEAT ON BONE|POULTRY LEG|RICE CRACKER|RICE BALL|COOKED RICE|CURRY AND RICE|STEAMING BOWL|SPAGHETTI|BREAD",
    "FRENCH FRIES|ROASTED SWEET POTATO|DANGO|ODEN|SUSHI|FRIED SHRIMP|FISH CAKE WITH SWIRL DESIGN|SOFT ICE CREAM",
    "SHAVED ICE|ICE CREAM|DOUGHNUT|COOKIE|CHOCOLATE BAR|CANDY|LOLLIPOP|CUSTARD|HONEY POT|SHORTCAKE|BENTO BOX",
    "POT OF FOOD|COOKING|FORK AND KNIFE|TEACUP WITHOUT HANDLE|SAKE BOTTLE AND CUP|WINE GLASS|COCKTAIL GLASS",
    "TROPICAL DRINK|BEER MUG|CLINKING BEER MUGS|BABY BOTTLE|FORK AND KNIFE WITH PLATE|BOTTLE WITH POPPING CORK",
    "POPCORN|RIBBON|WRAPPED PRESENT|BIRTHDAY CAKE|JACK-O-LANTERN|CHRISTMAS TREE|FATHER CHRISTMAS|FIREWORKS",
    "FIREWORK SPARKLER|BALLOON|PARTY POPPER|CONFETTI BALL|TANABATA TREE|CROSSED FLAGS|PINE DECORATION",
    "JAPANESE DOLLS|CARP STREAMER|WIND CHIME|MOON VIEWING CEREMONY|SCHOOL SATCHEL|GRADUATION CAP",
    "HEART WITH TIP ON THE LEFT|BOUQUET OF FLOWERS|MILITARY MEDAL|REMINDER RIBBON|MUSICAL KEYBOARD WITH JACKS",
    "STUDIO MICROPHONE|LEVEL SLIDER|CONTROL KNOBS|BEAMED ASCENDING MUSICAL NOTES|BEAMED DESCENDING MUSICAL NOTES",
    "FILM FRAMES|ADMISSION TICKETS|CAROUSEL HORSE|FERRIS WHEEL|ROLLER COASTER|FISHING POLE AND FISH|MICROPHONE",
    "MOVIE CAMERA|CINEMA|HEADPHONE|ARTIST PALETTE|TOP HAT|CIRCUS TENT|TICKET|CLAPPER BOARD|PERFORMING ARTS",
    "VIDEO GAME|DIRECT HIT|SLOT MACHINE|BILLIARDS|GAME DIE|BOWLING|FLOWER PLAYING CARDS|MUSICAL NOTE",
    "MULTIPLE MUSICAL NOTES|SAXOPHONE|GUITAR|MUSICAL KEYBOARD|TRUMPET|VIOLIN|MUSICAL SCORE|RUNNING SHIRT WITH SASH",
    "TENNIS RACQUET AND BALL|SKI AND SKI BOOT|BASKETBALL AND HOOP|CHEQUERED FLAG|SNOWBOARDER|RUNNER|SURFER",
    "SPORTS MEDAL|TROPHY|HORSE RACING|AMERICAN FOOTBALL|RUGBY FOOTBALL|SWIMMER|WEIGHT LIFTER|GOLFER",
    "RACING MOTORCYCLE|RACING CAR|CRICKET BAT AND BALL|VOLLEYBALL|FIELD HOCKEY STICK AND BALL",
    "ICE HOCKEY STICK AND PUCK|TABLE TENNIS PADDLE AND BALL|SNOW CAPPED MOUNTAIN|CAMPING|BEACH WITH UMBRELLA",
    "BUILDING CONSTRUCTION|HOUSE BUILDINGS|CITYSCAPE|DERELICT HOUSE BUILDING|CLASSICAL BUILDING|DESERT",
    "DESERT ISLAND|NATIONAL PARK|STADIUM|HOUSE BUILDING|HOUSE WITH GARDEN|OFFICE BUILDING|JAPANESE POST OFFICE",
    "EUROPEAN POST OFFICE|HOSPITAL|BANK|AUTOMATED TELLER MACHINE|HOTEL|LOVE HOTEL|CONVENIENCE STORE|SCHOOL",
    "DEPARTMENT STORE|FACTORY|IZAKAYA LANTERN|JAPANESE CASTLE|EUROPEAN CASTLE|WHITE PENNANT|BLACK PENNANT",
    "WAVING WHITE FLAG|WAVING BLACK FLAG|ROSETTE|BLACK ROSETTE|LABEL|BADMINTON RACQUET AND SHUTTLECOCK",
    "BOW AND ARROW|AMPHORA"]⟩,
  ⟨0x1F3FB, "EMOJI MODIFIER FITZPATRICK TYPE-", ["1-2|3|4|5|6"]⟩,
  ⟨0x1F400, "", [
    "RAT|MOUSE|OX|WATER BUFFALO|COW|TIGER|LEOPARD|RABBIT|CAT|DRAGON|CROCODILE|WHALE|SNAIL|SNAKE|HORSE|RAM|GOAT",
    "SHEEP|MONKEY|ROOSTER|CHICKEN|DOG|PIG|BOAR|ELEPHANT|OCTOPUS|SPIRAL SHELL|BUG|ANT|HONEYBEE|LADY BEETLE|FISH",
    "TROPICAL FISH|BLOWFISH|TURTLE|HATCHING CHICK|BABY CHICK|FRONT-FACING BABY CHICK|BIRD|PENGUIN|KOALA|POODLE",
    "DROMEDARY CAMEL|BACTRIAN CAMEL|DOLPHIN|MOUSE FACE|COW FACE|TIGER FACE|RABBIT FACE|CAT FACE|DRAGON FACE",
    "SPOUTING WHALE|HORSE FACE|MONKEY FACE|DOG FACE|PIG FACE|FROG FACE|HAMSTER FACE|WOLF FACE|BEAR FACE|PANDA FACE",
    "PIG NOSE|PAW PRINTS|CHIPMUNK|EYES|EYE|EAR|NOSE|MOUTH|TONGUE|WHITE UP POINTING BACKHAND INDEX",
    "WHITE DOWN POINTING BACKHAND INDEX|WHITE LEFT POINTING BACKHAND INDEX|WHITE RIGHT POINTING BACKHAND INDEX",
    "FISTED HAND SIGN|WAVING HAND SIGN|OK HAND SIGN|THUMBS UP SIGN|THUMBS DOWN SIGN|CLAPPING HANDS SIGN",
    "OPEN HANDS SIGN|CROWN|WOMANS HAT|EYEGLASSES|NECKTIE|T-SHIRT|JEANS|DRESS|KIMONO|BIKINI|WOMANS CLOTHES|PURSE",
    "HANDBAG|POUCH|MANS SHOE|ATHLETIC SHOE|HIGH-HEELED SHOE|WOMANS SANDAL|WOMANS BOOTS|FOOTPRINTS",
    "BUST IN SILHOUETTE|BUSTS IN SILHOUETTE|BOY|GIRL|MAN|WOMAN|FAMILY|MAN AND WOMAN HOLDING HANDS",
    "TWO MEN HOLDING HANDS|TWO WOMEN HOLDING HANDS|POLICE OFFICER|WOMAN WITH BUNNY EARS|BRIDE WITH VEIL",
    "PERSON WITH BLOND HAIR|MAN WITH GUA PI MAO|MAN WITH TURBAN|OLDER MAN|OLDER WOMAN|BABY|CONSTRUCTION WORKER",
    "PRINCESS|JAPANESE OGRE|JAPANESE GOBLIN|GHOST|BABY ANGEL|EXTRATERRESTRIAL ALIEN|ALIEN MONSTER|IMP|SKULL",
    "INFORMATION DESK PERSON|GUARDSMAN|DANCER|LIPSTICK|NAIL POLISH|FACE MASSAGE|HAIRCUT|BARBER POLE|SYRINGE|PILL",
    "KISS MARK|LOVE LETTER|RING|GEM STONE|KISS|BOUQUET|COUPLE WITH HEART|WEDDING|BEATING HEART|BROKEN HEART",
    "TWO HEARTS|SPARKLING HEART|GROWING HEART|HEART WITH ARROW|BLUE HEART|GREEN HEART|YELLOW HEART|PURPLE HEART",
    "HEART WITH RIBBON|REVOLVING HEARTS|HEART DECORATION|DIAMOND SHAPE WITH A DOT INSIDE|ELECTRIC LIGHT BULB",
    "ANGER SYMBOL|BOMB|SLEEPING SYMBOL|COLLISION SYMBOL|SPLASHING SWEAT SYMBOL|DROPLET|DASH SYMBOL|PILE OF POO",
    "FLEXED BICEPS|DIZZY SYMBOL|SPEECH BALLOON|THOUGHT BALLOON|WHITE FLOWER|HUNDRED POINTS SYMBOL|MONEY BAG",
    "CURRENCY EXCHANGE|HEAVY DOLLAR SIGN|CREDIT CARD"]⟩,
  ⟨0x1F4B4, "BANKNOTE WITH ", ["YEN SIGN|DOLLAR SIGN|EURO SIGN|POUND SIGN"]⟩,
  ⟨0x1F4B8, "", [
    "MONEY WITH WINGS|CHART WITH UPWARDS TREND AND YEN SIGN|SEAT|PERSONAL COMPUTER|BRIEFCASE|MINIDISC|FLOPPY DISK",
    "OPTICAL DISC|DVD|FILE FOLDER|OPEN FILE FOLDER|PAGE WITH CURL|PAGE FACING UP|CALENDAR|TEAR-OFF CALENDAR",
    "CARD INDEX|CHART WITH UPWARDS TREND|CHART WITH DOWNWARDS TREND|BAR CHART|CLIPBOARD|PUSHPIN|ROUND PUSHPIN",
    "PAPERCLIP|STRAIGHT RULER|TRIANGULAR RULER|BOOKMARK TABS|LEDGER|NOTEBOOK|NOTEBOOK WITH DECORATIVE COVER",
    "CLOSED BOOK|OPEN BOOK|GREEN BOOK|BLUE BOOK|ORANGE BOOK|BOOKS|NAME BADGE|SCROLL|MEMO|TELEPHONE RECEIVER|PAGER",
    "FAX MACHINE|SATELLITE ANTENNA|PUBLIC ADDRESS LOUDSPEAKER|CHEERING MEGAPHONE|OUTBOX TRAY|INBOX TRAY|PACKAGE",
    "E-MAIL SYMBOL|INCOMING ENVELOPE|ENVELOPE WITH DOWNWARDS ARROW ABOVE|CLOSED MAILBOX WITH LOWERED FLAG",
    "CLOSED MAILBOX WITH RAISED FLAG|OPEN MAILBOX WITH RAISED FLAG|OPEN MAILBOX WITH LOWERED FLAG|POSTBOX",
    "POSTAL HORN|NEWSPAPER|MOBILE PHONE|MOBILE PHONE WITH RIGHTWARDS ARROW AT LEFT|VIBRATION MODE|MOBILE PHONE OFF",
    "NO MOBILE PHONES|ANTENNA WITH BARS|CAMERA|CAMERA WITH FLASH|VIDEO CAMERA|TELEVISION|RADIO|VIDEOCASSETTE",
    "FILM PROJECTOR|PORTABLE STEREO|PRAYER BEADS|TWISTED RIGHTWARDS ARROWS"]⟩,
  ⟨0x1F501, "CLOCKWISE RIGHTWARDS AND LEFTWARDS OPEN CIRCLE ", ["ARROWS|ARROWS WITH CIRCLED ONE OVERLAY"]⟩,
  ⟨0x1F503, "", [
    "CLOCKWISE DOWNWARDS AND UPWARDS OPEN CIRCLE ARROWS|ANTICLOCKWISE DOWNWARDS AND UPWARDS OPEN CIRCLE ARROWS",
    "LOW BRIGHTNESS SYMBOL|HIGH BRIGHTNESS SYMBOL|SPEAKER WITH CANCELLATION STROKE|SPEAKER",
    "SPEAKER WITH ONE SOUND WAVE|SPEAKER WITH THREE SOUND WAVES|BATTERY|ELECTRIC PLUG",
    "LEFT-POINTING MAGNIFYING GLASS|RIGHT-POINTING MAGNIFYING GLASS|LOCK WITH INK PEN|CLOSED LOCK WITH KEY|KEY|LOCK",
    "OPEN LOCK|BELL|BELL WITH CANCELLATION STROKE|BOOKMARK|LINK SYMBOL|RADIO BUTTON|BACK WITH LEFTWARDS ARROW ABOVE",
    "END WITH LEFTWARDS ARROW ABOVE|ON WITH EXCLAMATION MARK WITH LEFT RIGHT ARROW ABOVE",
    "SOON WITH RIGHTWARDS ARROW ABOVE|TOP WITH UPWARDS ARROW ABOVE|NO ONE UNDER EIGHTEEN SYMBOL|KEYCAP TEN"]⟩,
  ⟨0x1F520, "INPUT SYMBOL FOR ", ["LATIN CAPITAL LETTERS|LATIN SMALL LETTERS|NUMBERS|SYMBOLS|LATIN LETTERS"]⟩,
  ⟨0x1F525, "", [
    "FIRE|ELECTRIC TORCH|WRENCH|HAMMER|NUT AND BOLT|HOCHO|PISTOL|MICROSCOPE|TELESCOPE|CRYSTAL BALL",
    "SIX POINTED STAR WITH MIDDLE DOT|JAPANESE SYMBOL FOR BEGINNER|TRIDENT EMBLEM|BLACK SQUARE BUTTON",
    "WHITE SQUARE BUTTON|LARGE RED CIRCLE|LARGE BLUE CIRCLE|LARGE ORANGE DIAMOND|LARGE BLUE DIAMOND",
    "SMALL ORANGE DIAMOND|SMALL BLUE DIAMOND|UP-POINTING RED TRIANGLE|DOWN-POINTING RED TRIANGLE",
    "UP-POINTING SMALL RED TRIANGLE|DOWN-POINTING SMALL RED TRIANGLE|LOWER RIGHT SHADOWED WHITE CIRCLE",
    "UPPER RIGHT SHADOWED WHITE CIRCLE|CIRCLED CROSS POMMEE|CROSS POMMEE WITH HALF-CIRCLE BELOW|CROSS POMMEE",
    "NOTCHED LEFT SEMICIRCLE WITH THREE DOTS|NOTCHED RIGHT SEMICIRCLE WITH THREE DOTS|SYMBOL FOR MARKS CHAPTER",
    "WHITE LATIN CROSS|HEAVY LATIN CROSS|CELTIC CROSS|OM SYMBOL|DOVE OF PEACE|KAABA|MOSQUE|SYNAGOGUE",
    "MENORAH WITH NINE BRANCHES|BOWL OF HYGIEIA"]⟩,
  ⟨0x1F550, "CLOCK FACE ", [
    "ONE OCLOCK|TWO OCLOCK|THREE OCLOCK|FOUR OCLOCK|FIVE OCLOCK|SIX OCLOCK|SEVEN OCLOCK|EIGHT OCLOCK|NINE OCLOCK",
    "TEN OCLOCK|ELEVEN OCLOCK|TWELVE OCLOCK|ONE-THIRTY|TWO-THIRTY|THREE-THIRTY|FOUR-THIRTY|FIVE-THIRTY|SIX-THIRTY",
    "SEVEN-THIRTY|EIGHT-THIRTY|NINE-THIRTY|TEN-THIRTY|ELEVEN-THIRTY|TWELVE-THIRTY"]⟩,
  ⟨0x1F568, "", [
    "RIGHT SPEAKER|RIGHT SPEAKER WITH ONE SOUND WAVE|RIGHT SPEAKER WITH THREE SOUND WAVES|BULLHORN",
    "BULLHORN WITH SOUND WAVES|RINGING BELL|BOOK|CANDLE|MANTELPIECE CLOCK|BLACK SKULL AND CROSSBONES|NO PIRACY|HOLE",
    "MAN IN BUSINESS SUIT LEVITATING|SLEUTH OR SPY|DARK SUNGLASSES|SPIDER|SPIDER WEB|JOYSTICK|MAN DANCING",
    "LEFT HAND TELEPHONE RECEIVER|TELEPHONE RECEIVER WITH PAGE|RIGHT HAND TELEPHONE RECEIVER",
    "WHITE TOUCHTONE TELEPHONE|BLACK TOUCHTONE TELEPHONE|TELEPHONE ON TOP OF MODEM|CLAMSHELL MOBILE PHONE",
    "BACK OF ENVELOPE|STAMPED ENVELOPE|ENVELOPE WITH LIGHTNING|FLYING ENVELOPE|PEN OVER STAMPED ENVELOPE",
    "LINKED PAPERCLIPS|BLACK PUSHPIN"]⟩,
  ⟨0x1F589, "LOWER LEFT ", ["PENCIL|BALLPOINT PEN|FOUNTAIN PEN|PAINTBRUSH|CRAYON"]⟩,
  ⟨0x1F58E, "", ["LEFT WRITING HAND|TURNED OK HAND SIGN|RAISED HAND WITH FINGERS SPLAYED"]⟩,
  ⟨0x1F591, "REVERSED ", [
    "RAISED HAND WITH FINGERS SPLAYED|THUMBS UP SIGN|THUMBS DOWN SIGN|VICTORY HAND|HAND WITH MIDDLE FINGER EXTENDED"]⟩,
  ⟨0x1F596, "", [
    "RAISED HAND WITH PART BETWEEN MIDDLE AND RING FINGERS|WHITE DOWN POINTING LEFT HAND INDEX",
    "SIDEWAYS WHITE LEFT POINTING INDEX|SIDEWAYS WHITE RIGHT POINTING INDEX|SIDEWAYS BLACK LEFT POINTING INDEX",
    "SIDEWAYS BLACK RIGHT POINTING INDEX|BLACK LEFT POINTING BACKHAND INDEX|BLACK RIGHT POINTING BACKHAND INDEX",
    "SIDEWAYS WHITE UP POINTING INDEX|SIDEWAYS WHITE DOWN POINTING INDEX|SIDEWAYS BLACK UP POINTING INDEX",
    "SIDEWAYS BLACK DOWN POINTING INDEX|BLACK UP POINTING BACKHAND INDEX|BLACK DOWN POINTING BACKHAND INDEX",
    "BLACK HEART|DESKTOP COMPUTER|KEYBOARD AND MOUSE|THREE NETWORKED COMPUTERS|PRINTER|POCKET CALCULATOR",
    "BLACK HARD SHELL FLOPPY DISK|WHITE HARD SHELL FLOPPY DISK|SOFT SHELL FLOPPY DISK|TAPE CARTRIDGE|WIRED KEYBOARD",
    "ONE BUTTON MOUSE|TWO BUTTON MOUSE|THREE BUTTON MOUSE|TRACKBALL|OLD PERSONAL COMPUTER|HARD DISK|SCREEN",
    "PRINTER ICON|FAX ICON|OPTICAL DISC ICON"]⟩,
  ⟨0x1F5B9, "DOCUMENT WITH ", ["TEXT|TEXT AND PICTURE|PICTURE"]⟩,
  ⟨0x1F5BC, "FRAME WITH ", ["PICTURE|TILES|AN X"]⟩,
  ⟨0x1F5BF, "", [
    "BLACK FOLDER|FOLDER|OPEN FOLDER|CARD INDEX DIVIDERS|CARD FILE BOX|FILE CABINET|EMPTY NOTE|EMPTY NOTE PAGE",
    "EMPTY NOTE PAD|NOTE|NOTE PAGE|NOTE PAD|EMPTY DOCUMENT|EMPTY PAGE|EMPTY PAGES|DOCUMENT|PAGE|PAGES|WASTEBASKET",
    "SPIRAL NOTE PAD|SPIRAL CALENDAR PAD|DESKTOP WINDOW|MINIMIZE|MAXIMIZE|OVERLAP",
    "CLOCKWISE RIGHT AND LEFT SEMICIRCLE ARROWS|CANCELLATION X|INCREASE FONT SIZE SYMBOL|DECREASE FONT SIZE SYMBOL",
    "COMPRESSION|OLD KEY|ROLLED-UP NEWSPAPER|PAGE WITH CIRCLED TEXT|STOCK CHART|DAGGER KNIFE|LIPS",
    "SPEAKING HEAD IN SILHOUETTE"]⟩,
  ⟨0x1F5E4, "THREE RAYS ", ["ABOVE|BELOW|LEFT|RIGHT"]⟩,
  ⟨0x1F5E8, "", [
    "LEFT SPEECH BUBBLE|RIGHT SPEECH BUBBLE|TWO SPEECH BUBBLES|THREE SPEECH BUBBLES|LEFT THOUGHT BUBBLE",
    "RIGHT THOUGHT BUBBLE|LEFT ANGER BUBBLE|RIGHT ANGER BUBBLE|MOOD BUBBLE|LIGHTNING MOOD BUBBLE|LIGHTNING MOOD",
    "BALLOT BOX WITH BALLOT|BALLOT SCRIPT X|BALLOT BOX WITH SCRIPT X|BALLOT BOLD SCRIPT X",
    "BALLOT BOX WITH BOLD SCRIPT X|LIGHT CHECK MARK|BALLOT BOX WITH BOLD CHECK|WORLD MAP|MOUNT FUJI|TOKYO TOWER",
    "STATUE OF LIBERTY|SILHOUETTE OF JAPAN|MOYAI|GRINNING FACE|GRINNING FACE WITH SMILING EYES",
    "FACE WITH TEARS OF JOY"]⟩,
  ⟨0x1F603, "SMILING FACE WITH ", [
    "OPEN MOUTH|OPEN MOUTH AND SMILING EYES|OPEN MOUTH AND COLD SWEAT|OPEN MOUTH AND TIGHTLY-CLOSED EYES|HALO|HORNS"]⟩,
  ⟨0x1F609, "", [
    "WINKING FACE|SMILING FACE WITH SMILING EYES|FACE SAVOURING DELICIOUS FOOD|RELIEVED FACE",
    "SMILING FACE WITH HEART-SHAPED EYES|SMILING FACE WITH SUNGLASSES|SMIRKING FACE|NEUTRAL FACE",
    "EXPRESSIONLESS FACE|UNAMUSED FACE|FACE WITH COLD SWEAT|PENSIVE FACE|CONFUSED FACE|CONFOUNDED FACE|KISSING FACE",
    "FACE THROWING A KISS"]⟩,
  ⟨0x1F619, "KISSING FACE WITH ", ["SMILING EYES|CLOSED EYES"]⟩,
  ⟨0x1F61B, "FACE WITH STUCK-OUT ", ["TONGUE|TONGUE AND WINKING EYE|TONGUE AND TIGHTLY-CLOSED EYES"]⟩,
  ⟨0x1F61E, "", [
    "DISAPPOINTED FACE|WORRIED FACE|ANGRY FACE|POUTING FACE|CRYING FACE|PERSEVERING FACE|FACE WITH LOOK OF TRIUMPH",
    "DISAPPOINTED BUT RELIEVED FACE|FROWNING FACE WITH OPEN MOUTH|ANGUISHED FACE|FEARFUL FACE|WEARY FACE",
    "SLEEPY FACE|TIRED FACE|GRIMACING FACE|LOUDLY CRYING FACE|FACE WITH OPEN MOUTH|HUSHED FACE",
    "FACE WITH OPEN MOUTH AND COLD SWEAT|FACE SCREAMING IN FEAR|ASTONISHED FACE|FLUSHED FACE|SLEEPING FACE",
    "DIZZY FACE|FACE WITHOUT MOUTH|FACE WITH MEDICAL MASK|GRINNING CAT FACE WITH SMILING EYES",
    "CAT FACE WITH TEARS OF JOY|SMILING CAT FACE WITH OPEN MOUTH|SMILING CAT FACE WITH HEART-SHAPED EYES",
    "CAT FACE WITH WRY SMILE|KISSING CAT FACE WITH CLOSED EYES|POUTING CAT FACE|CRYING CAT FACE|WEARY CAT FACE",
    "SLIGHTLY FROWNING FACE|SLIGHTLY SMILING FACE|UPSIDE-DOWN FACE|FACE WITH ROLLING EYES|FACE WITH NO GOOD GESTURE",
    "FACE WITH OK GESTURE|PERSON BOWING DEEPLY|SEE-NO-EVIL MONKEY|HEAR-NO-EVIL MONKEY|SPEAK-NO-EVIL MONKEY",
    "HAPPY PERSON RAISING ONE HAND|PERSON RAISING BOTH HANDS IN CELEBRATION|PERSON FROWNING",
    "PERSON WITH POUTING FACE|PERSON WITH FOLDED HANDS|NORTH WEST POINTING LEAF|SOUTH WEST POINTING LEAF",
    "NORTH EAST POINTING LEAF|SOUTH EAST POINTING LEAF|TURNED NORTH WEST POINTING LEAF",
    "TURNED SOUTH WEST POINTING LEAF|TURNED NORTH EAST POINTING LEAF|TURNED SOUTH EAST POINTING LEAF",
    "NORTH WEST POINTING VINE LEAF|SOUTH WEST POINTING VINE LEAF|NORTH EAST POINTING VINE LEAF",
    "SOUTH EAST POINTING VINE LEAF|HEAVY NORTH WEST POINTING VINE LEAF|HEAVY SOUTH WEST POINTING VINE LEAF",
    "HEAVY NORTH EAST POINTING VINE LEAF|HEAVY SOUTH EAST POINTING VINE LEAF|NORTH WEST POINTING BUD",
    "SOUTH WEST POINTING BUD|NORTH EAST POINTING BUD|SOUTH EAST POINTING BUD|HEAVY NORTH WEST POINTING BUD",
    "HEAVY SOUTH WEST POINTING BUD|HEAVY NORTH EAST POINTING BUD|HEAVY SOUTH EAST POINTING BUD",
    "HOLLOW QUILT SQUARE ORNAMENT|HOLLOW QUILT SQUARE ORNAMENT IN BLACK SQUARE|SOLID QUILT SQUARE ORNAMENT",
    "SOLID QUILT SQUARE ORNAMENT IN BLACK SQUARE|LEFTWARDS ROCKET|UPWARDS ROCKET|RIGHTWARDS ROCKET|DOWNWARDS ROCKET",
    "SCRIPT LIGATURE ET ORNAMENT|HEAVY SCRIPT LIGATURE ET ORNAMENT|LIGATURE OPEN ET ORNAMENT",
    "HEAVY LIGATURE OPEN ET ORNAMENT|HEAVY AMPERSAND ORNAMENT|SWASH AMPERSAND ORNAMENT"]⟩,
  ⟨0x1F676, "SANS-SERIF HEAVY ", [
    "DOUBLE TURNED COMMA QUOTATION MARK ORNAMENT|DOUBLE COMMA QUOTATION MARK ORNAMENT",
    "LOW DOUBLE COMMA QUOTATION MARK ORNAMENT"]⟩,
  ⟨0x1F679, "", [
    "HEAVY INTERROBANG ORNAMENT|SANS-SERIF INTERROBANG ORNAMENT|HEAVY SANS-SERIF INTERROBANG ORNAMENT",
    "VERY HEAVY SOLIDUS|VERY HEAVY REVERSE SOLIDUS|CHECKER BOARD|REVERSE CHECKER BOARD|ROCKET|HELICOPTER",
    "STEAM LOCOMOTIVE|RAILWAY CAR|HIGH-SPEED TRAIN|HIGH-SPEED TRAIN WITH BULLET NOSE|TRAIN|METRO|LIGHT RAIL|STATION",
    "TRAM|TRAM CAR|BUS|ONCOMING BUS|TROLLEYBUS|BUS STOP|MINIBUS|AMBULANCE|FIRE ENGINE|POLICE CAR",
    "ONCOMING POLICE CAR|TAXI|ONCOMING TAXI|AUTOMOBILE|ONCOMING AUTOMOBILE|RECREATIONAL VEHICLE|DELIVERY TRUCK",
    "ARTICULATED LORRY|TRACTOR|MONORAIL|MOUNTAIN RAILWAY|SUSPENSION RAILWAY|MOUNTAIN CABLEWAY|AERIAL TRAMWAY|SHIP",
    "ROWBOAT|SPEEDBOAT|HORIZONTAL TRAFFIC LIGHT|VERTICAL TRAFFIC LIGHT|CONSTRUCTION SIGN",
    "POLICE CARS REVOLVING LIGHT|TRIANGULAR FLAG ON POST|DOOR|NO ENTRY SIGN|SMOKING SYMBOL|NO SMOKING SYMBOL",
    "PUT LITTER IN ITS PLACE SYMBOL|DO NOT LITTER SYMBOL|POTABLE WATER SYMBOL|NON-POTABLE WATER SYMBOL|BICYCLE",
    "NO BICYCLES|BICYCLIST|MOUNTAIN BICYCLIST|PEDESTRIAN|NO PEDESTRIANS|CHILDREN CROSSING|MENS SYMBOL|WOMENS SYMBOL",
    "RESTROOM|BABY SYMBOL|TOILET|WATER CLOSET|SHOWER|BATH|BATHTUB|PASSPORT CONTROL|CUSTOMS|BAGGAGE CLAIM",
    "LEFT LUGGAGE|TRIANGLE WITH ROUNDED CORNERS|PROHIBITED SIGN|CIRCLED INFORMATION SOURCE|BOYS SYMBOL|GIRLS SYMBOL",
    "COUCH AND LAMP|SLEEPING ACCOMMODATION|SHOPPING BAGS|BELLHOP BELL|BED|PLACE OF WORSHIP|OCTAGONAL SIGN",
    "SHOPPING TROLLEY|STUPA|PAGODA|HINDU TEMPLE|HUT|ELEVATOR"]⟩,
  ⟨0x1F6DD, "", [
    "PLAYGROUND SLIDE|WHEEL|RING BUOY|HAMMER AND WRENCH|SHIELD|OIL DRUM|MOTORWAY|RAILWAY TRACK|MOTOR BOAT",
    "UP-POINTING MILITARY AIRPLANE|UP-POINTING AIRPLANE|UP-POINTING SMALL AIRPLANE|SMALL AIRPLANE",
    "NORTHEAST-POINTING AIRPLANE|AIRPLANE DEPARTURE|AIRPLANE ARRIVING"]⟩,
  ⟨0x1F6F0, "", [
    "SATELLITE|ONCOMING FIRE ENGINE|DIESEL LOCOMOTIVE|PASSENGER SHIP|SCOOTER|MOTOR SCOOTER|CANOE|SLED|FLYING SAUCER",
    "SKATEBOARD|AUTO RICKSHAW|PICKUP TRUCK|ROLLER SKATE"]⟩,
  ⟨0x1F700, "ALCHEMICAL SYMBOL FOR ", [
    "QUINTESSENCE|AIR|FIRE|EARTH|WATER|AQUAFORTIS|AQUA REGIA|AQUA REGIA-2|AQUA VITAE|AQUA VITAE-2|VINEGAR|VINEGAR-2",
    "VINEGAR-3|SULFUR|PHILOSOPHERS SULFUR|BLACK SULFUR|MERCURY SUBLIMATE|MERCURY SUBLIMATE-2|MERCURY SUBLIMATE-3",
    "CINNABAR|SALT|NITRE|VITRIOL|VITRIOL-2|ROCK SALT|ROCK SALT-2|GOLD|SILVER|IRON ORE|IRON ORE-2|CROCUS OF IRON",
    "REGULUS OF IRON|COPPER ORE|IRON-COPPER ORE|SUBLIMATE OF COPPER|CROCUS OF COPPER|CROCUS OF COPPER-2",
    "COPPER ANTIMONIATE|SALT OF COPPER ANTIMONIATE|SUBLIMATE OF SALT OF COPPER|VERDIGRIS|TIN ORE|LEAD ORE",
    "ANTIMONY ORE|SUBLIMATE OF ANTIMONY|SALT OF ANTIMONY|SUBLIMATE OF SALT OF ANTIMONY|VINEGAR OF ANTIMONY",
    "REGULUS OF ANTIMONY|REGULUS OF ANTIMONY-2|REGULUS|REGULUS-2|REGULUS-3|REGULUS-4|ALKALI|ALKALI-2|MARCASITE",
    "SAL-AMMONIAC|ARSENIC|REALGAR|REALGAR-2|AURIPIGMENT|BISMUTH ORE|TARTAR|TARTAR-2|QUICK LIME|BORAX|BORAX-2",
    "BORAX-3|ALUM|OIL|SPIRIT|TINCTURE|GUM|WAX|POWDER|CALX|TUTTY|CAPUT MORTUUM|SCEPTER OF JOVE|CADUCEUS|TRIDENT",
    "STARRED TRIDENT|LODESTONE|SOAP|URINE|HORSE DUNG|ASHES|POT ASHES|BRICK|POWDERED BRICK|AMALGAM",
    "STRATUM SUPER STRATUM|STRATUM SUPER STRATUM-2|SUBLIMATION|PRECIPITATE|DISTILL|DISSOLVE|DISSOLVE-2|PURIFY",
    "PUTREFACTION|CRUCIBLE|CRUCIBLE-2|CRUCIBLE-3|CRUCIBLE-4|CRUCIBLE-5|ALEMBIC|BATH OF MARY|BATH OF VAPOURS|RETORT",
    "HOUR|NIGHT|DAY-NIGHT|MONTH|HALF DRAM|HALF OUNCE"]⟩,
  ⟨0x1F780, "BLACK ", [
    "LEFT-POINTING ISOSCELES RIGHT TRIANGLE|UP-POINTING ISOSCELES RIGHT TRIANGLE",
    "RIGHT-POINTING ISOSCELES RIGHT TRIANGLE|DOWN-POINTING ISOSCELES RIGHT TRIANGLE|SLIGHTLY SMALL CIRCLE"]⟩,
  ⟨0x1F785, "", [
    "MEDIUM BOLD WHITE CIRCLE|BOLD WHITE CIRCLE|HEAVY WHITE CIRCLE|VERY HEAVY WHITE CIRCLE",
    "EXTREMELY HEAVY WHITE CIRCLE|WHITE CIRCLE CONTAINING BLACK SMALL CIRCLE|ROUND TARGET|BLACK TINY SQUARE",
    "BLACK SLIGHTLY SMALL SQUARE|LIGHT WHITE SQUARE|MEDIUM WHITE SQUARE|BOLD WHITE SQUARE|HEAVY WHITE SQUARE",
    "VERY HEAVY WHITE SQUARE|EXTREMELY HEAVY WHITE SQUARE|WHITE SQUARE CONTAINING BLACK VERY SMALL SQUARE",
    "WHITE SQUARE CONTAINING BLACK MEDIUM SQUARE|SQUARE TARGET|BLACK TINY DIAMOND|BLACK VERY SMALL DIAMOND",
    "BLACK MEDIUM SMALL DIAMOND|WHITE DIAMOND CONTAINING BLACK VERY SMALL DIAMOND",
    "WHITE DIAMOND CONTAINING BLACK MEDIUM DIAMOND|DIAMOND TARGET|BLACK TINY LOZENGE|BLACK VERY SMALL LOZENGE",
    "BLACK MEDIUM SMALL LOZENGE|WHITE LOZENGE CONTAINING BLACK SMALL LOZENGE|THIN GREEK CROSS|LIGHT GREEK CROSS",
    "MEDIUM GREEK CROSS|BOLD GREEK CROSS|VERY BOLD GREEK CROSS|VERY HEAVY GREEK CROSS|EXTREMELY HEAVY GREEK CROSS",
    "THIN SALTIRE|LIGHT SALTIRE|MEDIUM SALTIRE|BOLD SALTIRE|HEAVY SALTIRE|VERY HEAVY SALTIRE",
    "EXTREMELY HEAVY SALTIRE|LIGHT FIVE SPOKED ASTERISK|MEDIUM FIVE SPOKED ASTERISK|BOLD FIVE SPOKED ASTERISK",
    "HEAVY FIVE SPOKED ASTERISK|VERY HEAVY FIVE SPOKED ASTERISK|EXTREMELY HEAVY FIVE SPOKED ASTERISK",
    "LIGHT SIX SPOKED ASTERISK|MEDIUM SIX SPOKED ASTERISK|BOLD SIX SPOKED ASTERISK|HEAVY SIX SPOKED ASTERISK",
    "VERY HEAVY SIX SPOKED ASTERISK|EXTREMELY HEAVY SIX SPOKED ASTERISK|LIGHT EIGHT SPOKED ASTERISK",
    "MEDIUM EIGHT SPOKED ASTERISK|BOLD EIGHT SPOKED ASTERISK|HEAVY EIGHT SPOKED ASTERISK",
    "VERY HEAVY EIGHT SPOKED ASTERISK|LIGHT THREE POINTED BLACK STAR|MEDIUM THREE POINTED BLACK STAR",
    "THREE POINTED BLACK STAR|MEDIUM THREE POINTED PINWHEEL STAR|LIGHT FOUR POINTED BLACK STAR",
    "MEDIUM FOUR POINTED BLACK STAR|FOUR POINTED BLACK STAR|MEDIUM FOUR POINTED PINWHEEL STAR",
    "REVERSE LIGHT FOUR POINTED PINWHEEL STAR|LIGHT FIVE POINTED BLACK STAR|HEAVY FIVE POINTED BLACK STAR",
    "MEDIUM SIX POINTED BLACK STAR|HEAVY SIX POINTED BLACK STAR|SIX POINTED PINWHEEL STAR",
    "MEDIUM EIGHT POINTED BLACK STAR|HEAVY EIGHT POINTED BLACK STAR|VERY HEAVY EIGHT POINTED BLACK STAR",
    "HEAVY EIGHT POINTED PINWHEEL STAR|LIGHT TWELVE POINTED BLACK STAR|HEAVY TWELVE POINTED BLACK STAR",
    "HEAVY TWELVE POINTED PINWHEEL STAR|CIRCLED TRIANGLE|NEGATIVE CIRCLED TRIANGLE|CIRCLED SQUARE",
    "NEGATIVE CIRCLED SQUARE"]⟩,
  ⟨0x1F7E0, "LARGE ", [
    "ORANGE CIRCLE|YELLOW CIRCLE|GREEN CIRCLE|PURPLE CIRCLE|BROWN CIRCLE|RED SQUARE|BLUE SQUARE|ORANGE SQUARE",
    "YELLOW SQUARE|GREEN SQUARE|PURPLE SQUARE|BROWN SQUARE"]⟩,
  ⟨0x1F7F0, "HEAVY EQUALS SIGN", [""]⟩,
  ⟨0x1F800, "", [
    "LEFTWARDS ARROW WITH SMALL TRIANGLE ARROWHEAD|UPWARDS ARROW WITH SMALL TRIANGLE ARROWHEAD",
    "RIGHTWARDS ARROW WITH SMALL TRIANGLE ARROWHEAD|DOWNWARDS ARROW WITH SMALL TRIANGLE ARROWHEAD",
    "LEFTWARDS ARROW WITH MEDIUM TRIANGLE ARROWHEAD|UPWARDS ARROW WITH MEDIUM TRIANGLE ARROWHEAD",
    "RIGHTWARDS ARROW WITH MEDIUM TRIANGLE ARROWHEAD|DOWNWARDS ARROW WITH MEDIUM TRIANGLE ARROWHEAD",
    "LEFTWARDS ARROW WITH LARGE TRIANGLE ARROWHEAD|UPWARDS ARROW WITH LARGE TRIANGLE ARROWHEAD",
    "RIGHTWARDS ARROW WITH LARGE TRIANGLE ARROWHEAD|DOWNWARDS ARROW WITH LARGE TRIANGLE ARROWHEAD"]⟩,
  ⟨0x1F810, "", [
    "LEFTWARDS ARROW WITH SMALL EQUILATERAL ARROWHEAD|UPWARDS ARROW WITH SMALL EQUILATERAL ARROWHEAD",
    "RIGHTWARDS ARROW WITH SMALL EQUILATERAL ARROWHEAD|DOWNWARDS ARROW WITH SMALL EQUILATERAL ARROWHEAD",
    "LEFTWARDS ARROW WITH EQUILATERAL ARROWHEAD|UPWARDS ARROW WITH EQUILATERAL ARROWHEAD",
    "RIGHTWARDS ARROW WITH EQUILATERAL ARROWHEAD|DOWNWARDS ARROW WITH EQUILATERAL ARROWHEAD"]⟩,
  ⟨0x1F818, "HEAVY ", [
    "LEFTWARDS ARROW WITH EQUILATERAL ARROWHEAD|UPWARDS ARROW WITH EQUILATERAL ARROWHEAD",
    "RIGHTWARDS ARROW WITH EQUILATERAL ARROWHEAD|DOWNWARDS ARROW WITH EQUILATERAL ARROWHEAD",
    "LEFTWARDS ARROW WITH LARGE EQUILATERAL ARROWHEAD|UPWARDS ARROW WITH LARGE EQUILATERAL ARROWHEAD",
    "RIGHTWARDS ARROW WITH LARGE EQUILATERAL ARROWHEAD|DOWNWARDS ARROW WITH LARGE EQUILATERAL ARROWHEAD"]⟩,
  ⟨0x1F820, "", [
    "LEFTWARDS TRIANGLE-HEADED ARROW WITH NARROW SHAFT|UPWARDS TRIANGLE-HEADED ARROW WITH NARROW SHAFT",
    "RIGHTWARDS TRIANGLE-HEADED ARROW WITH NARROW SHAFT|DOWNWARDS TRIANGLE-HEADED ARROW WITH NARROW SHAFT",
    "LEFTWARDS TRIANGLE-HEADED ARROW WITH MEDIUM SHAFT|UPWARDS TRIANGLE-HEADED ARROW WITH MEDIUM SHAFT",
    "RIGHTWARDS TRIANGLE-HEADED ARROW WITH MEDIUM SHAFT|DOWNWARDS TRIANGLE-HEADED ARROW WITH MEDIUM SHAFT",
    "LEFTWARDS TRIANGLE-HEADED ARROW WITH BOLD SHAFT|UPWARDS TRIANGLE-HEADED ARROW WITH BOLD SHAFT",
    "RIGHTWARDS TRIANGLE-HEADED ARROW WITH BOLD SHAFT|DOWNWARDS TRIANGLE-HEADED ARROW WITH BOLD SHAFT",
    "LEFTWARDS TRIANGLE-HEADED ARROW WITH HEAVY SHAFT|UPWARDS TRIANGLE-HEADED ARROW WITH HEAVY SHAFT",
    "RIGHTWARDS TRIANGLE-HEADED ARROW WITH HEAVY SHAFT|DOWNWARDS TRIANGLE-HEADED ARROW WITH HEAVY SHAFT",
    "LEFTWARDS TRIANGLE-HEADED ARROW WITH VERY HEAVY SHAFT|UPWARDS TRIANGLE-HEADED ARROW WITH VERY HEAVY SHAFT",
    "RIGHTWARDS TRIANGLE-HEADED ARROW WITH VERY HEAVY SHAFT|DOWNWARDS TRIANGLE-HEADED ARROW WITH VERY HEAVY SHAFT",
    "LEFTWARDS FINGER-POST ARROW|UPWARDS FINGER-POST ARROW|RIGHTWARDS FINGER-POST ARROW|DOWNWARDS FINGER-POST ARROW",
    "LEFTWARDS SQUARED ARROW|UPWARDS SQUARED ARROW|RIGHTWARDS SQUARED ARROW|DOWNWARDS SQUARED ARROW",
    "LEFTWARDS COMPRESSED ARROW|UPWARDS COMPRESSED ARROW|RIGHTWARDS COMPRESSED ARROW|DOWNWARDS COMPRESSED ARROW",
    "LEFTWARDS HEAVY COMPRESSED ARROW|UPWARDS HEAVY COMPRESSED ARROW|RIGHTWARDS HEAVY COMPRESSED ARROW",
    "DOWNWARDS HEAVY COMPRESSED ARROW|LEFTWARDS HEAVY ARROW|UPWARDS HEAVY ARROW|RIGHTWARDS HEAVY ARROW",
    "DOWNWARDS HEAVY ARROW"]⟩,
  ⟨0x1F850, "", [
    "LEFTWARDS SANS-SERIF ARROW|UPWARDS SANS-SERIF ARROW|RIGHTWARDS SANS-SERIF ARROW|DOWNWARDS SANS-SERIF ARROW",
    "NORTH WEST SANS-SERIF ARROW|NORTH EAST SANS-SERIF ARROW|SOUTH EAST SANS-SERIF ARROW",
    "SOUTH WEST SANS-SERIF ARROW|LEFT RIGHT SANS-SERIF ARROW|UP DOWN SANS-SERIF ARROW"]⟩,
  ⟨0x1F860, "WIDE-HEADED ", [
    "LEFTWARDS LIGHT BARB ARROW|UPWARDS LIGHT BARB ARROW|RIGHTWARDS LIGHT BARB ARROW|DOWNWARDS LIGHT BARB ARROW",
    "NORTH WEST LIGHT BARB ARROW|NORTH EAST LIGHT BARB ARROW|SOUTH EAST LIGHT BARB ARROW",
    "SOUTH WEST LIGHT BARB ARROW|LEFTWARDS BARB ARROW|UPWARDS BARB ARROW|RIGHTWARDS BARB ARROW|DOWNWARDS BARB ARROW",
    "NORTH WEST BARB ARROW|NORTH EAST BARB ARROW|SOUTH EAST BARB ARROW|SOUTH WEST BARB ARROW",
    "LEFTWARDS MEDIUM BARB ARROW|UPWARDS MEDIUM BARB ARROW|RIGHTWARDS MEDIUM BARB ARROW|DOWNWARDS MEDIUM BARB ARROW",
    "NORTH WEST MEDIUM BARB ARROW|NORTH EAST MEDIUM BARB ARROW|SOUTH EAST MEDIUM BARB ARROW",
    "SOUTH WEST MEDIUM BARB ARROW|LEFTWARDS HEAVY BARB ARROW|UPWARDS HEAVY BARB ARROW|RIGHTWARDS HEAVY BARB ARROW",
    "DOWNWARDS HEAVY BARB ARROW|NORTH WEST HEAVY BARB ARROW|NORTH EAST HEAVY BARB ARROW|SOUTH EAST HEAVY BARB ARROW",
    "SOUTH WEST HEAVY BARB ARROW|LEFTWARDS VERY HEAVY BARB ARROW|UPWARDS VERY HEAVY BARB ARROW",
    "RIGHTWARDS VERY HEAVY BARB ARROW|DOWNWARDS VERY HEAVY BARB ARROW|NORTH WEST VERY HEAVY BARB ARROW",
    "NORTH EAST VERY HEAVY BARB ARROW|SOUTH EAST VERY HEAVY BARB ARROW|SOUTH WEST VERY HEAVY BARB ARROW"]⟩,
  ⟨0x1F890, "", [
    "LEFTWARDS TRIANGLE ARROWHEAD|UPWARDS TRIANGLE ARROWHEAD|RIGHTWARDS TRIANGLE ARROWHEAD",
    "DOWNWARDS TRIANGLE ARROWHEAD|LEFTWARDS WHITE ARROW WITHIN TRIANGLE ARROWHEAD",
    "UPWARDS WHITE ARROW WITHIN TRIANGLE ARROWHEAD|RIGHTWARDS WHITE ARROW WITHIN TRIANGLE ARROWHEAD",
    "DOWNWARDS WHITE ARROW WITHIN TRIANGLE ARROWHEAD|LEFTWARDS ARROW WITH NOTCHED TAIL",
    "UPWARDS ARROW WITH NOTCHED TAIL|RIGHTWARDS ARROW WITH NOTCHED TAIL|DOWNWARDS ARROW WITH NOTCHED TAIL"]⟩,
  ⟨0x1F89C, "HEAVY ARROW SHAFT WIDTH ", ["ONE|TWO THIRDS|ONE HALF|ONE THIRD"]⟩,
  ⟨0x1F8A0, "", [
    "LEFTWARDS BOTTOM-SHADED WHITE ARROW|RIGHTWARDS BOTTOM SHADED WHITE ARROW|LEFTWARDS TOP SHADED WHITE ARROW",
    "RIGHTWARDS TOP SHADED WHITE ARROW|LEFTWARDS LEFT-SHADED WHITE ARROW|RIGHTWARDS RIGHT-SHADED WHITE ARROW",
    "LEFTWARDS RIGHT-SHADED WHITE ARROW|RIGHTWARDS LEFT-SHADED WHITE ARROW",
    "LEFTWARDS BACK-TILTED SHADOWED WHITE ARROW|RIGHTWARDS BACK-TILTED SHADOWED WHITE ARROW",
    "LEFTWARDS FRONT-TILTED SHADOWED WHITE ARROW|RIGHTWARDS FRONT-TILTED SHADOWED WHITE ARROW"]⟩,
  ⟨0x1F8AC, "WHITE ARROW SHAFT WIDTH ", ["ONE|TWO THIRDS"]⟩,
  ⟨0x1F8B0, "ARROW POINTING ", ["UPWARDS THEN NORTH WEST|RIGHTWARDS THEN CURVING SOUTH WEST"]⟩,
  ⟨0x1F900, "CIRCLED CROSS ", ["FORMEE WITH FOUR DOTS|FORMEE WITH TWO DOTS|FORMEE"]⟩,
  ⟨0x1F903, "LEFT HALF CIRCLE WITH ", ["FOUR DOTS|THREE DOTS|TWO DOTS|DOT"]⟩,
  ⟨0x1F907, "LEFT HALF CIRCLE", [""]⟩,
  ⟨0x1F908, "DOWNWARD FACING ", ["HOOK|NOTCHED HOOK|HOOK WITH DOT|NOTCHED HOOK WITH DOT"]⟩,
  ⟨0x1F90C, "", [
    "PINCHED FINGERS|WHITE HEART|BROWN HEART|PINCHING HAND|ZIPPER-MOUTH FACE|MONEY-MOUTH FACE|FACE WITH THERMOMETER",
    "NERD FACE|THINKING FACE|FACE WITH HEAD-BANDAGE|ROBOT FACE|HUGGING FACE|SIGN OF THE HORNS|CALL ME HAND",
    "RAISED BACK OF HAND|LEFT-FACING FIST|RIGHT-FACING FIST|HANDSHAKE|HAND WITH INDEX AND MIDDLE FINGERS CROSSED",
    "I LOVE YOU HAND SIGN|FACE WITH COWBOY HAT|CLOWN FACE|NAUSEATED FACE|ROLLING ON THE FLOOR LAUGHING",
    "DROOLING FACE|LYING FACE|FACE PALM|SNEEZING FACE|FACE WITH ONE EYEBROW RAISED|GRINNING FACE WITH STAR EYES",
    "GRINNING FACE WITH ONE LARGE AND ONE SMALL EYE|FACE WITH FINGER COVERING CLOSED LIPS",
    "SERIOUS FACE WITH SYMBOLS COVERING MOUTH|SMILING FACE WITH SMILING EYES AND HAND COVERING MOUTH",
    "FACE WITH OPEN MOUTH VOMITING|SHOCKED FACE WITH EXPLODING HEAD|PREGNANT WOMAN|BREAST-FEEDING|PALMS UP TOGETHER",
    "SELFIE|PRINCE|MAN IN TUXEDO|MOTHER CHRISTMAS|SHRUG|PERSON DOING CARTWHEEL|JUGGLING|FENCER|MODERN PENTATHLON",
    "WRESTLERS|WATER POLO|HANDBALL|DIVING MASK|WILTED FLOWER|DRUM WITH DRUMSTICKS|CLINKING GLASSES|TUMBLER GLASS",
    "SPOON|GOAL NET|RIFLE|FIRST PLACE MEDAL|SECOND PLACE MEDAL|THIRD PLACE MEDAL|BOXING GLOVE|MARTIAL ARTS UNIFORM",
    "CURLING STONE|LACROSSE STICK AND BALL|SOFTBALL|FLYING DISC|CROISSANT|AVOCADO|CUCUMBER|BACON|POTATO|CARROT",
    "BAGUETTE BREAD|GREEN SALAD|SHALLOW PAN OF FOOD|STUFFED FLATBREAD|EGG|GLASS OF MILK|PEANUTS|KIWIFRUIT|PANCAKES",
    "DUMPLING|FORTUNE COOKIE|TAKEOUT BOX|CHOPSTICKS|BOWL WITH SPOON|CUP WITH STRAW|COCONUT|BROCCOLI|PIE|PRETZEL",
    "CUT OF MEAT|SANDWICH|CANNED FOOD|LEAFY GREEN|MANGO|MOON CAKE|BAGEL",
    "SMILING FACE WITH SMILING EYES AND THREE HEARTS|YAWNING FACE|SMILING FACE WITH TEAR",
    "FACE WITH PARTY HORN AND PARTY HAT|FACE WITH UNEVEN EYES AND WAVY MOUTH|OVERHEATED FACE|FREEZING FACE|NINJA",
    "DISGUISED FACE|FACE HOLDING BACK TEARS|FACE WITH PLEADING EYES|SARI|LAB COAT|GOGGLES|HIKING BOOT|FLAT SHOE",
    "CRAB|LION FACE|SCORPION|TURKEY|UNICORN FACE|EAGLE|DUCK|BAT|SHARK|OWL|FOX FACE|BUTTERFLY|DEER|GORILLA|LIZARD",
    "RHINOCEROS|SHRIMP|SQUID|GIRAFFE FACE|ZEBRA FACE|HEDGEHOG|SAUROPOD|T-REX|CRICKET|KANGAROO|LLAMA|PEACOCK",
    "HIPPOPOTAMUS|PARROT|RACCOON|LOBSTER|MOSQUITO|MICROBE|BADGER|SWAN|MAMMOTH|DODO|SLOTH|OTTER|ORANGUTAN|SKUNK",
    "FLAMINGO|OYSTER|BEAVER|BISON|SEAL|GUIDE DOG|PROBING CANE"]⟩,
  ⟨0x1F9B0, "EMOJI COMPONENT ", ["RED HAIR|CURLY HAIR|BALD|WHITE HAIR"]⟩,
  ⟨0x1F9B4, "", [
    "BONE|LEG|FOOT|TOOTH|SUPERHERO|SUPERVILLAIN|SAFETY VEST|EAR WITH HEARING AID|MOTORIZED WHEELCHAIR",
    "MANUAL WHEELCHAIR|MECHANICAL ARM|MECHANICAL LEG|CHEESE WEDGE|CUPCAKE|SALT SHAKER|BEVERAGE BOX|GARLIC|ONION",
    "FALAFEL|WAFFLE|BUTTER|MATE DRINK|ICE CUBE|BUBBLE TEA|TROLL|STANDING PERSON|KNEELING PERSON|DEAF PERSON",
    "FACE WITH MONOCLE|ADULT|CHILD|OLDER ADULT|BEARDED PERSON|PERSON WITH HEADSCARF|PERSON IN STEAMY ROOM",
    "PERSON CLIMBING|PERSON IN LOTUS POSITION|MAGE|FAIRY|VAMPIRE|MERPERSON|ELF|GENIE|ZOMBIE|BRAIN|ORANGE HEART",
    "BILLED CAP|SCARF|GLOVES|COAT|SOCKS|RED GIFT ENVELOPE|FIRECRACKER|JIGSAW PUZZLE PIECE|TEST TUBE|PETRI DISH",
    "DNA DOUBLE HELIX|COMPASS|ABACUS|FIRE EXTINGUISHER|TOOLBOX|BRICK|MAGNET|LUGGAGE|LOTION BOTTLE|SPOOL OF THREAD",
    "BALL OF YARN|SAFETY PIN|TEDDY BEAR|BROOM|BASKET|ROLL OF PAPER|BAR OF SOAP|SPONGE|RECEIPT|NAZAR AMULET"]⟩,
  ⟨0x1FA00, "NEUTRAL CHESS ", ["KING|QUEEN|ROOK|BISHOP|KNIGHT|PAWN"]⟩,
  ⟨0x1FA06, "", [
    "WHITE CHESS KNIGHT ROTATED FORTY-FIVE DEGREES|BLACK CHESS KNIGHT ROTATED FORTY-FIVE DEGREES",
    "NEUTRAL CHESS KNIGHT ROTATED FORTY-FIVE DEGREES"]⟩,
  ⟨0x1FA09, "WHITE CHESS ", [
    "KING ROTATED NINETY DEGREES|QUEEN ROTATED NINETY DEGREES|ROOK ROTATED NINETY DEGREES",
    "BISHOP ROTATED NINETY DEGREES|KNIGHT ROTATED NINETY DEGREES|PAWN ROTATED NINETY DEGREES"]⟩,
  ⟨0x1FA0F, "BLACK CHESS ", [
    "KING ROTATED NINETY DEGREES|QUEEN ROTATED NINETY DEGREES|ROOK ROTATED NINETY DEGREES",
    "BISHOP ROTATED NINETY DEGREES|KNIGHT ROTATED NINETY DEGREES|PAWN ROTATED NINETY DEGREES"]⟩,
  ⟨0x1FA15, "NEUTRAL CHESS ", [
    "KING ROTATED NINETY DEGREES|QUEEN ROTATED NINETY DEGREES|ROOK ROTATED NINETY DEGREES",
    "BISHOP ROTATED NINETY DEGREES|KNIGHT ROTATED NINETY DEGREES|PAWN ROTATED NINETY DEGREES"]⟩,
  ⟨0x1FA1B, "", [
    "WHITE CHESS KNIGHT ROTATED ONE HUNDRED THIRTY-FIVE DEGREES",
    "BLACK CHESS KNIGHT ROTATED ONE HUNDRED THIRTY-FIVE DEGREES",
    "NEUTRAL CHESS KNIGHT ROTATED ONE HUNDRED THIRTY-FIVE DEGREES"]⟩,
  ⟨0x1FA1E, "WHITE CHESS TURNED ", ["KING|QUEEN|ROOK|BISHOP|KNIGHT|PAWN"]⟩,
  ⟨0x1FA24, "BLACK CHESS TURNED ", ["KING|QUEEN|ROOK|BISHOP|KNIGHT|PAWN"]⟩,
  ⟨0x1FA2A, "NEUTRAL CHESS TURNED ", ["KING|QUEEN|ROOK|BISHOP|KNIGHT|PAWN"]⟩,
  ⟨0x1FA30, "", [
    "WHITE CHESS KNIGHT ROTATED TWO HUNDRED TWENTY-FIVE DEGREES",
    "BLACK CHESS KNIGHT ROTATED TWO HUNDRED TWENTY-FIVE DEGREES",
    "NEUTRAL CHESS KNIGHT ROTATED TWO HUNDRED TWENTY-FIVE DEGREES"]⟩,
  ⟨0x1FA33, "WHITE CHESS ", [
    "KING ROTATED TWO HUNDRED SEVENTY DEGREES|QUEEN ROTATED TWO HUNDRED SEVENTY DEGREES",
    "ROOK ROTATED TWO HUNDRED SEVENTY DEGREES|BISHOP ROTATED TWO HUNDRED SEVENTY DEGREES",
    "KNIGHT ROTATED TWO HUNDRED SEVENTY DEGREES|PAWN ROTATED TWO HUNDRED SEVENTY DEGREES"]⟩,
  ⟨0x1FA39, "BLACK CHESS ", [
    "KING ROTATED TWO HUNDRED SEVENTY DEGREES|QUEEN ROTATED TWO HUNDRED SEVENTY DEGREES",
    "ROOK ROTATED TWO HUNDRED SEVENTY DEGREES|BISHOP ROTATED TWO HUNDRED SEVENTY DEGREES",
    "KNIGHT ROTATED TWO HUNDRED SEVENTY DEGREES|PAWN ROTATED TWO HUNDRED SEVENTY DEGREES"]⟩,
  ⟨0x1FA3F, "NEUTRAL CHESS ", [
    "KING ROTATED TWO HUNDRED SEVENTY DEGREES|QUEEN ROTATED TWO HUNDRED SEVENTY DEGREES",
    "ROOK ROTATED TWO HUNDRED SEVENTY DEGREES|BISHOP ROTATED TWO HUNDRED SEVENTY DEGREES",
    "KNIGHT ROTATED TWO HUNDRED SEVENTY DEGREES|PAWN ROTATED TWO HUNDRED SEVENTY DEGREES"]⟩,
  ⟨0x1FA45, "", [
    "WHITE CHESS KNIGHT ROTATED THREE HUNDRED FIFTEEN DEGREES",
    "BLACK CHESS KNIGHT ROTATED THREE HUNDRED FIFTEEN DEGREES",
    "NEUTRAL CHESS KNIGHT ROTATED THREE HUNDRED FIFTEEN DEGREES|WHITE CHESS EQUIHOPPER|BLACK CHESS EQUIHOPPER",
    "NEUTRAL CHESS EQUIHOPPER|WHITE CHESS EQUIHOPPER ROTATED NINETY DEGREES",
    "BLACK CHESS EQUIHOPPER ROTATED NINETY DEGREES|NEUTRAL CHESS EQUIHOPPER ROTATED NINETY DEGREES"]⟩,
  ⟨0x1FA4E, "WHITE CHESS KNIGHT-", ["QUEEN|ROOK|BISHOP"]⟩,
  ⟨0x1FA51, "BLACK CHESS KNIGHT-", ["QUEEN|ROOK|BISHOP"]⟩,
  ⟨0x1FA60, "XIANGQI RED ", ["GENERAL|MANDARIN|ELEPHANT|HORSE|CHARIOT|CANNON|SOLDIER"]⟩,
  ⟨0x1FA67, "XIANGQI BLACK ", ["GENERAL|MANDARIN|ELEPHANT|HORSE|CHARIOT|CANNON|SOLDIER"]⟩,
  ⟨0x1FA70, "", ["BALLET SHOES|ONE-PIECE SWIMSUIT|BRIEFS|SHORTS|THONG SANDAL"]⟩,
  ⟨0x1FA78, "", ["DROP OF BLOOD|ADHESIVE BANDAGE|STETHOSCOPE|X-RAY|CRUTCH"]⟩,
  ⟨0x1FA80, "", ["YO-YO|KITE|PARACHUTE|BOOMERANG|MAGIC WAND|PINATA|NESTING DOLLS"]⟩,
  ⟨0x1FA90, "", [
    "RINGED PLANET|CHAIR|RAZOR|AXE|DIYA LAMP|BANJO|MILITARY HELMET|ACCORDION|LONG DRUM|COIN|CARPENTRY SAW",
    "SCREWDRIVER|LADDER|HOOK|MIRROR|WINDOW|PLUNGER|SEWING NEEDLE|KNOT|BUCKET|MOUSE TRAP|TOOTHBRUSH|HEADSTONE",
    "PLACARD|ROCK|MIRROR BALL|IDENTIFICATION CARD|LOW BATTERY|HAMSA"]⟩,
  ⟨0x1FAB0, "", ["FLY|WORM|BEETLE|COCKROACH|POTTED PLANT|WOOD|FEATHER|LOTUS|CORAL|EMPTY NEST|NEST WITH EGGS"]⟩,
  ⟨0x1FAC0, "", ["ANATOMICAL HEART|LUNGS|PEOPLE HUGGING|PREGNANT MAN|PREGNANT PERSON|PERSON WITH CROWN"]⟩,
  ⟨0x1FAD0, "", ["BLUEBERRIES|BELL PEPPER|OLIVE|FLATBREAD|TAMALE|FONDUE|TEAPOT|POURING LIQUID|BEANS|JAR"]⟩,
  ⟨0x1FAE0, "", [
    "MELTING FACE|SALUTING FACE|FACE WITH OPEN EYES AND HAND OVER MOUTH|FACE WITH PEEKING EYE",
    "FACE WITH DIAGONAL MOUTH|DOTTED LINE FACE|BITING LIP|BUBBLES"]⟩,
  ⟨0x1FAF0, "", [
    "HAND WITH INDEX FINGER AND THUMB CROSSED|RIGHTWARDS HAND|LEFTWARDS HAND|PALM DOWN HAND|PALM UP HAND",
    "INDEX POINTING AT THE VIEWER|HEART HANDS"]⟩,
  ⟨0x1FB00, "BLOCK SEXTANT-", [
    "1|2|12|3|13|23|123|4|14|24|124|34|134|234|1234|5|15|25|125|35|235|1235|45|145|245|1245|345|1345|2345|12345|6",
    "16|26|126|36|136|236|1236|46|146|1246|346|1346|2346|12346|56|156|256|1256|356|1356|2356|12356|456|1456|2456",
    "12456|3456|13456|23456"]⟩,
  ⟨0x1FB3C, "LOWER LEFT BLOCK DIAGONAL ", [
    "LOWER MIDDLE LEFT TO LOWER CENTRE|LOWER MIDDLE LEFT TO LOWER RIGHT|UPPER MIDDLE LEFT TO LOWER CENTRE",
    "UPPER MIDDLE LEFT TO LOWER RIGHT|UPPER LEFT TO LOWER CENTRE"]⟩,
  ⟨0x1FB41, "LOWER RIGHT BLOCK DIAGONAL UPPER MIDDLE LEFT TO UPPER ", ["CENTRE|RIGHT"]⟩,
  ⟨0x1FB43, "LOWER RIGHT BLOCK DIAGONAL LOWER ", [
    "MIDDLE LEFT TO UPPER CENTRE|MIDDLE LEFT TO UPPER RIGHT|LEFT TO UPPER CENTRE|MIDDLE LEFT TO UPPER MIDDLE RIGHT",
    "CENTRE TO LOWER MIDDLE RIGHT|LEFT TO LOWER MIDDLE RIGHT|CENTRE TO UPPER MIDDLE RIGHT",
    "LEFT TO UPPER MIDDLE RIGHT|CENTRE TO UPPER RIGHT"]⟩,
  ⟨0x1FB4C, "LOWER LEFT BLOCK DIAGONAL UPPER ", [
    "CENTRE TO UPPER MIDDLE RIGHT|LEFT TO UPPER MIDDLE RIGHT|CENTRE TO LOWER MIDDLE RIGHT",
    "LEFT TO LOWER MIDDLE RIGHT|CENTRE TO LOWER RIGHT|MIDDLE LEFT TO LOWER MIDDLE RIGHT"]⟩,
  ⟨0x1FB52, "UPPER RIGHT BLOCK DIAGONAL ", [
    "LOWER MIDDLE LEFT TO LOWER CENTRE|LOWER MIDDLE LEFT TO LOWER RIGHT|UPPER MIDDLE LEFT TO LOWER CENTRE",
    "UPPER MIDDLE LEFT TO LOWER RIGHT|UPPER LEFT TO LOWER CENTRE"]⟩,
  ⟨0x1FB57, "UPPER LEFT BLOCK DIAGONAL UPPER MIDDLE LEFT TO UPPER ", ["CENTRE|RIGHT"]⟩,
  ⟨0x1FB59, "UPPER LEFT BLOCK DIAGONAL LOWER ", [
    "MIDDLE LEFT TO UPPER CENTRE|MIDDLE LEFT TO UPPER RIGHT|LEFT TO UPPER CENTRE|MIDDLE LEFT TO UPPER MIDDLE RIGHT",
    "CENTRE TO LOWER MIDDLE RIGHT|LEFT TO LOWER MIDDLE RIGHT|CENTRE TO UPPER MIDDLE RIGHT",
    "LEFT TO UPPER MIDDLE RIGHT|CENTRE TO UPPER RIGHT"]⟩,
  ⟨0x1FB62, "UPPER RIGHT BLOCK DIAGONAL UPPER ", [
    "CENTRE TO UPPER MIDDLE RIGHT|LEFT TO UPPER MIDDLE RIGHT|CENTRE TO LOWER MIDDLE RIGHT",
    "LEFT TO LOWER MIDDLE RIGHT|CENTRE TO LOWER RIGHT|MIDDLE LEFT TO LOWER MIDDLE RIGHT"]⟩,
  ⟨0x1FB68, "", [
    "UPPER AND RIGHT AND LOWER TRIANGULAR THREE QUARTERS BLOCK",
    "LEFT AND LOWER AND RIGHT TRIANGULAR THREE QUARTERS BLOCK",
    "UPPER AND LEFT AND LOWER TRIANGULAR THREE QUARTERS BLOCK",
    "LEFT AND UPPER AND RIGHT TRIANGULAR THREE QUARTERS BLOCK|LEFT TRIANGULAR ONE QUARTER BLOCK",
    "UPPER TRIANGULAR ONE QUARTER BLOCK|RIGHT TRIANGULAR ONE QUARTER BLOCK|LOWER TRIANGULAR ONE QUARTER BLOCK"]⟩,
  ⟨0x1FB70, "VERTICAL ONE EIGHTH BLOCK-", ["2|3|4|5|6|7"]⟩,
  ⟨0x1FB76, "HORIZONTAL ONE EIGHTH BLOCK-", ["2|3|4|5|6|7"]⟩,
  ⟨0x1FB7C, "", [
    "LEFT AND LOWER ONE EIGHTH BLOCK|LEFT AND UPPER ONE EIGHTH BLOCK|RIGHT AND UPPER ONE EIGHTH BLOCK",
    "RIGHT AND LOWER ONE EIGHTH BLOCK|UPPER AND LOWER ONE EIGHTH BLOCK|HORIZONTAL ONE EIGHTH BLOCK-1358"]⟩,
  ⟨0x1FB82, "UPPER ", [
    "ONE QUARTER BLOCK|THREE EIGHTHS BLOCK|FIVE EIGHTHS BLOCK|THREE QUARTERS BLOCK|SEVEN EIGHTHS BLOCK"]⟩,
  ⟨0x1FB87, "RIGHT ", [
    "ONE QUARTER BLOCK|THREE EIGHTHS BLOCK|FIVE EIGHTHS BLOCK|THREE QUARTERS BLOCK|SEVEN EIGHTHS BLOCK"]⟩,
  ⟨0x1FB8C, "", [
    "LEFT HALF MEDIUM SHADE|RIGHT HALF MEDIUM SHADE|UPPER HALF MEDIUM SHADE|LOWER HALF MEDIUM SHADE",
    "INVERSE MEDIUM SHADE|UPPER HALF BLOCK AND LOWER HALF INVERSE MEDIUM SHADE",
    "UPPER HALF INVERSE MEDIUM SHADE AND LOWER HALF BLOCK"]⟩,
  ⟨0x1FB94, "", [
    "LEFT HALF INVERSE MEDIUM SHADE AND RIGHT HALF BLOCK|CHECKER BOARD FILL|INVERSE CHECKER BOARD FILL",
    "HEAVY HORIZONTAL FILL|UPPER LEFT TO LOWER RIGHT FILL|UPPER RIGHT TO LOWER LEFT FILL",
    "UPPER AND LOWER TRIANGULAR HALF BLOCK|LEFT AND RIGHT TRIANGULAR HALF BLOCK|UPPER LEFT TRIANGULAR MEDIUM SHADE",
    "UPPER RIGHT TRIANGULAR MEDIUM SHADE|LOWER RIGHT TRIANGULAR MEDIUM SHADE|LOWER LEFT TRIANGULAR MEDIUM SHADE"]⟩,
  ⟨0x1FBA0, "BOX DRAWINGS LIGHT DIAGONAL ", [
    "UPPER CENTRE TO MIDDLE LEFT|UPPER CENTRE TO MIDDLE RIGHT|MIDDLE LEFT TO LOWER CENTRE",
    "MIDDLE RIGHT TO LOWER CENTRE|UPPER CENTRE TO MIDDLE LEFT TO LOWER CENTRE",
    "UPPER CENTRE TO MIDDLE RIGHT TO LOWER CENTRE|MIDDLE LEFT TO LOWER CENTRE TO MIDDLE RIGHT",
    "MIDDLE LEFT TO UPPER CENTRE TO MIDDLE RIGHT|UPPER CENTRE TO MIDDLE LEFT AND MIDDLE RIGHT TO LOWER CENTRE",
    "UPPER CENTRE TO MIDDLE RIGHT AND MIDDLE LEFT TO LOWER CENTRE",
    "UPPER CENTRE TO MIDDLE RIGHT TO LOWER CENTRE TO MIDDLE LEFT",
    "UPPER CENTRE TO MIDDLE LEFT TO LOWER CENTRE TO MIDDLE RIGHT",
    "MIDDLE LEFT TO UPPER CENTRE TO MIDDLE RIGHT TO LOWER CENTRE",
    "MIDDLE RIGHT TO UPPER CENTRE TO MIDDLE LEFT TO LOWER CENTRE|DIAMOND"]⟩,
  ⟨0x1FBAF, "", [
    "BOX DRAWINGS LIGHT HORIZONTAL WITH VERTICAL STROKE|ARROWHEAD-SHAPED POINTER|INVERSE CHECK MARK",
    "LEFT HALF RUNNING MAN|RIGHT HALF RUNNING MAN|INVERSE DOWNWARDS ARROW WITH TIP LEFTWARDS",
    "LEFTWARDS ARROW AND UPPER AND LOWER ONE EIGHTH BLOCK|RIGHTWARDS ARROW AND UPPER AND LOWER ONE EIGHTH BLOCK",
    "DOWNWARDS ARROW AND RIGHT ONE EIGHTH BLOCK|UPWARDS ARROW AND RIGHT ONE EIGHTH BLOCK|LEFT HALF FOLDER",
    "RIGHT HALF FOLDER|VOIDED GREEK CROSS|RIGHT OPEN SQUARED DOT"]⟩,
  ⟨0x1FBBD, "NEGATIVE DIAGONAL ", ["CROSS|MIDDLE RIGHT TO LOWER CENTRE|DIAMOND"]⟩,
  ⟨0x1FBC0, "", [
    "WHITE HEAVY SALTIRE WITH ROUNDED CORNERS|LEFT THIRD WHITE RIGHT POINTING INDEX",
    "MIDDLE THIRD WHITE RIGHT POINTING INDEX|RIGHT THIRD WHITE RIGHT POINTING INDEX|NEGATIVE SQUARED QUESTION MARK",
    "STICK FIGURE"]⟩,
  ⟨0x1FBC6, "STICK FIGURE ", ["WITH ARMS RAISED|LEANING LEFT|LEANING RIGHT|WITH DRESS"]⟩,
  ⟨0x1FBCA, "WHITE UP-POINTING CHEVRON", [""]⟩,
  ⟨0x1FBF0, "SEGMENTED DIGIT ", ["ZERO|ONE|TWO|THREE|FOUR|FIVE|SIX|SEVEN|EIGHT|NINE"]⟩,
  ⟨0xE0001, "LANGUAGE TAG", [""]⟩,
  ⟨0xE0020, "TAG ", [
    "SPACE|EXCLAMATION MARK|QUOTATION MARK|NUMBER SIGN|DOLLAR SIGN|PERCENT SIGN|AMPERSAND|APOSTROPHE",
    "LEFT PARENTHESIS|RIGHT PARENTHESIS|ASTERISK|PLUS SIGN|COMMA|HYPHEN-MINUS|FULL STOP|SOLIDUS"]⟩,
  ⟨0xE0030, "TAG DIGIT ", ["ZERO|ONE|TWO|THREE|FOUR|FIVE|SIX|SEVEN|EIGHT|NINE"]⟩,
  ⟨0xE003A, "TAG ", ["COLON|SEMICOLON|LESS-THAN SIGN|EQUALS SIGN|GREATER-THAN SIGN|QUESTION MARK|COMMERCIAL AT"]⟩,
  ⟨0xE0041, "TAG LATIN CAPITAL LETTER ", ["A|B|C|D|E|F|G|H|I|J|K|L|M|N|O|P|Q|R|S|T|U|V|W|X|Y|Z"]⟩,
  ⟨0xE005B, "TAG ", [
    "LEFT SQUARE BRACKET|REVERSE SOLIDUS|RIGHT SQUARE BRACKET|CIRCUMFLEX ACCENT|LOW LINE|GRAVE ACCENT"]⟩,
  ⟨0xE0061, "TAG LATIN SMALL LETTER ", ["A|B|C|D|E|F|G|H|I|J|K|L|M|N|O|P|Q|R|S|T|U|V|W|X|Y|Z"]⟩,
  ⟨0xE007B, "", ["TAG LEFT CURLY BRACKET|TAG VERTICAL LINE|TAG RIGHT CURLY BRACKET|TAG TILDE|CANCEL TAG"]⟩,
  ⟨0xE0100, "VARIATION SELECTOR-", [
    "17|18|19|20|21|22|23|24|25|26|27|28|29|30|31|32|33|34|35|36|37|38|39|40|41|42|43|44|45|46|47|48|49|50|51|52|53",
    "54|55|56|57|58|59|60|61|62|63|64|65|66|67|68|69|70|71|72|73|74|75|76|77|78|79|80|81|82|83|84|85|86|87|88|89|90",
    "91|92|93|94|95|96|97|98|99|100|101|102|103|104|105|106|107|108|109|110|111|112|113|114|115|116|117|118|119|120",
    "121|122|123|124|125|126|127|128|129|130|131|132|133|134|135|136|137|138|139|140|141|142|143|144|145|146|147",
    "148|149|150|151|152|153|154|155|156|157|158|159|160|161|162|163|164|165|166|167|168|169|170|171|172|173|174",
    "175|176|177|178|179|180|181|182|183|184|185|186|187|188|189|190|191|192|193|194|195|196|197|198|199|200|201",
    "202|203|204|205|206|207|208|209|210|211|212|213|214|215|216|217|218|219|220|221|222|223|224|225|226|227|228",
    "229|230|231|232|233|234|235|236|237|238|239|240|241|242|243|244|245|246|247|248|249|250|251|252|253|254|255",
    "256"]⟩]

/-- Names of control characters. -/
def controls : List NameRun := [
  ⟨0x0, "", [
    "NULL|START OF HEADING|START OF TEXT|END OF TEXT|END OF TRANSMISSION|ENQUIRY|ACKNOWLEDGE|ALERT|BACKSPACE",
    "CHARACTER TABULATION|LINE FEED|LINE TABULATION|FORM FEED|CARRIAGE RETURN|SHIFT OUT|SHIFT IN|DATA LINK ESCAPE",
    "DEVICE CONTROL ONE|DEVICE CONTROL TWO|DEVICE CONTROL THREE|DEVICE CONTROL FOUR|NEGATIVE ACKNOWLEDGE",
    "SYNCHRONOUS IDLE|END OF TRANSMISSION BLOCK|CANCEL|END OF MEDIUM|SUBSTITUTE|ESCAPE|INFORMATION SEPARATOR FOUR",
    "INFORMATION SEPARATOR THREE|INFORMATION SEPARATOR TWO|INFORMATION SEPARATOR ONE"]⟩,
  ⟨0x7F, "", [
    "DELETE|PADDING CHARACTER|HIGH OCTET PRESET|BREAK PERMITTED HERE|NO BREAK HERE|INDEX|NEXT LINE",
    "START OF SELECTED AREA|END OF SELECTED AREA|CHARACTER TABULATION SET|CHARACTER TABULATION WITH JUSTIFICATION",
    "LINE TABULATION SET|PARTIAL LINE FORWARD|PARTIAL LINE BACKWARD|REVERSE LINE FEED|SINGLE SHIFT TWO",
    "SINGLE SHIFT THREE|DEVICE CONTROL STRING|PRIVATE USE ONE|PRIVATE USE TWO|SET TRANSMIT STATE|CANCEL CHARACTER",
    "MESSAGE WAITING|START OF GUARDED AREA|END OF GUARDED AREA|START OF STRING|SINGLE GRAPHIC CHARACTER INTRODUCER",
    "SINGLE CHARACTER INTRODUCER|CONTROL SEQUENCE INTRODUCER|STRING TERMINATOR|OPERATING SYSTEM COMMAND",
    "PRIVACY MESSAGE|APPLICATION PROGRAM COMMAND"]⟩,
  ⟨0x9, "", ["HORIZONTAL TABULATION|NEW LINE|VERTICAL TABULATION"]⟩,
  ⟨0xE, "LOCKING-SHIFT ", ["ONE|ZERO"]⟩,
  ⟨0x1C, "", ["FILE SEPARATOR|GROUP SEPARATOR|RECORD SEPARATOR|UNIT SEPARATOR"]⟩,
  ⟨0x88, "", [
    "HORIZONTAL TABULATION SET|HORIZONTAL TABULATION WITH JUSTIFICATION|VERTICAL TABULATION SET|PARTIAL LINE DOWN",
    "PARTIAL LINE UP|REVERSE INDEX|SINGLE-SHIFT-2|SINGLE-SHIFT-3"]⟩,
  ⟨0x91, "PRIVATE USE-", ["1|2"]⟩,
  ⟨0x96, "", ["START OF PROTECTED AREA|END OF PROTECTED AREA"]⟩,
  ⟨0xA, "END OF LINE", [""]⟩]

/-- Corrected and alternate names. -/
def corrections : List NameRun := [
  ⟨0x1A2, "LATIN ", ["CAPITAL LETTER GHA|SMALL LETTER GHA"]⟩,
  ⟨0x709, "SYRIAC SUBLINEAR COLON SKEWED LEFT", [""]⟩,
  ⟨0xCDE, "KANNADA LETTER LLLA", [""]⟩,
  ⟨0xE9D, "LAO LETTER FO FON", [""]⟩,
  ⟨0xE9F, "LAO LETTER FO FAY", [""]⟩,
  ⟨0xEA3, "LAO LETTER RO", [""]⟩,
  ⟨0xEA5, "LAO LETTER LO", [""]⟩,
  ⟨0xFD0, "TIBETAN MARK BKA- SHOG GI MGO RGYAN", [""]⟩,
  ⟨0x11EC, "HANGUL JONGSEONG ", ["YESIEUNG-KIYEOK|YESIEUNG-SSANGKIYEOK|SSANGYESIEUNG|YESIEUNG-KHIEUKH"]⟩,
  ⟨0x2118, "WEIERSTRASS ELLIPTIC FUNCTION", [""]⟩,
  ⟨0x2448, "MICR ", ["ON US SYMBOL|DASH SYMBOL"]⟩,
  ⟨0x2B7A, "LEFTWARDS TRIANGLE-HEADED ARROW WITH DOUBLE VERTICAL STROKE", [""]⟩,
  ⟨0x2B7C, "RIGHTWARDS TRIANGLE-HEADED ARROW WITH DOUBLE VERTICAL STROKE", [""]⟩,
  ⟨0xA015, "YI SYLLABLE ITERATION MARK", [""]⟩,
  ⟨0xAA6E, "MYANMAR LETTER KHAMTI LLA", [""]⟩,
  ⟨0xFE18, "PRESENTATION FORM FOR VERTICAL RIGHT WHITE LENTICULAR BRACKET", [""]⟩,
  ⟨0xFEFF, "BYTE ORDER MARK", [""]⟩,
  ⟨0x122D4, "CUNEIFORM SIGN NU11 ", ["TENU|OVER NU11 BUR OVER BUR"]⟩,
  ⟨0x16E56, "MEDEFAIDRIN CAPITAL LETTER ", ["H|NG"]⟩,
  ⟨0x16E76, "MEDEFAIDRIN SMALL LETTER ", ["H|NG"]⟩,
  ⟨0x1B001, "HENTAIGANA LETTER E-1", [""]⟩,
  ⟨0x1D0C5, "BYZANTINE MUSICAL SYMBOL FTHORA SKLIRON CHROMA VASIS", [""]⟩]

/-- Abbreviated names. -/
def abbreviations : List NameRun := [
  ⟨0x0, "", [
    "NUL|SOH|STX|ETX|EOT|ENQ|ACK|BEL|BS|HT|LF|VT|FF|CR|SO|SI|DLE|DC1|DC2|DC3|DC4|NAK|SYN|ETB|CAN|EOM|SUB|ESC|FS|GS",
    "RS|US|SP"]⟩,
  ⟨0x7F, "", [
    "DEL|PAD|HOP|BPH|NBH|IND|NEL|SSA|ESA|HTS|HTJ|VTS|PLD|PLU|RI|SS2|SS3|DCS|PU1|PU2|STS|CCH|MW|SPA|EPA|SOS|SGC|SCI",
    "CSI|ST|OSC|PM|APC|NBSP"]⟩,
  ⟨0xAD, "SHY", [""]⟩,
  ⟨0x34F, "CGJ", [""]⟩,
  ⟨0x61C, "ALM", [""]⟩,
  ⟨0x180B, "", ["FVS1|FVS2|FVS3|MVS|FVS4"]⟩,
  ⟨0x200B, "", ["ZWSP|ZWNJ|ZWJ|LRM|RLM"]⟩,
  ⟨0x202A, "", ["LRE|RLE|PDF|LRO|RLO|NNBSP"]⟩,
  ⟨0x205F, "", ["MMSP|WJ"]⟩,
  ⟨0x2066, "", ["LRI|RLI|FSI|PDI"]⟩,
  ⟨0xFE00, "VS", ["1|2|3|4|5|6|7|8|9|10|11|12|13|14|15|16"]⟩,
  ⟨0xFEFF, "BOM", [""]⟩,
  ⟨0xE0100, "VS", [
    "17|18|19|20|21|22|23|24|25|26|27|28|29|30|31|32|33|34|35|36|37|38|39|40|41|42|43|44|45|46|47|48|49|50|51|52|53",
    "54|55|56|57|58|59|60|61|62|63|64|65|66|67|68|69|70|71|72|73|74|75|76|77|78|79|80|81|82|83|84|85|86|87|88|89|90",
    "91|92|93|94|95|96|97|98|99|100|101|102|103|104|105|106|107|108|109|110|111|112|113|114|115|116|117|118|119|120",
    "121|122|123|124|125|126|127|128|129|130|131|132|133|134|135|136|137|138|139|140|141|142|143|144|145|146|147",
    "148|149|150|151|152|153|154|155|156|157|158|159|160|161|162|163|164|165|166|167|168|169|170|171|172|173|174",
    "175|176|177|178|179|180|181|182|183|184|185|186|187|188|189|190|191|192|193|194|195|196|197|198|199|200|201",
    "202|203|204|205|206|207|208|209|210|211|212|213|214|215|216|217|218|219|220|221|222|223|224|225|226|227|228",
    "229|230|231|232|233|234|235|236|237|238|239|240|241|242|243|244|245|246|247|248|249|250|251|252|253|254|255",
    "256"]⟩,
  ⟨0x9, "", ["TAB|NL"]⟩,
  ⟨0xFEFF, "ZWNBSP", [""]⟩,
  ⟨0xA, "EOL", [""]⟩]

end NameRun

/-- The runs of all names. -/
def nameRuns : List NameRun :=
  NameRun.from0000 ++ NameRun.from0800 ++ NameRun.from1000 ++ NameRun.from1800 ++ NameRun.from2000 ++
    NameRun.from2800 ++ NameRun.fromA000 ++ NameRun.fromFB00 ++ NameRun.from10000 ++ NameRun.from11000 ++
    NameRun.from12000 ++ NameRun.from16000 ++ NameRun.from1D000 ++ NameRun.from1E000 ++
    NameRun.from1F300 ++ NameRun.controls ++ NameRun.corrections ++ NameRun.abbreviations

end TypeLint
