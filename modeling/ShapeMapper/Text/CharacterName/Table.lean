import ShapeMapper.Text.Basic

/-!
# Table of character names

The names of characters as one text. A line begins with the code of a character in base
sixteen, and then come its name and the names of the characters after it, with semicolons in
between. A name that begins like the one before it on the line has the number of the words
that they share in the place of these words, and a lower-case letter stands for a part that
is frequent in names.
-/

namespace ShapeMapper.Text.CharacterName

/-- The parts of names for which the lower-case letters stand, in the order of the alphabet. -/
def parts : List Text :=
  ["LETTER", "COMPONENT", "WITH", "CAPITAL", "SMALL", "IGHT", "IN", "ARROW", "ER", "FORM",
    "WARDS", "AND", "ED", "SIGN", "SELECTOR", "LEFT", "ABOVE", "DOUBLE", "DOT", "HORIZONTAL",
    "SYMBOL", "TION", "TRIANGLE", "BELOW", "STROKE", "BLACK"].map String.toList

/-- The lines of names, in increasing order of their codes; further names of the same
characters follow in lines of their own. -/
def table : String :=
"0;NULL;START OF HEADgG;2TEXT;END OF TEXT;2TRANSMISSION;ENQUIRY;ACKNOWLmGE;ALiT;BACKSPACE
9;CHARACTi TABULAv;LgE FEm;1TABULAv;j FEm;CARRIAGE RETURN;SHIFT OUT;1g;DATA LgK ESCAPE
11;DEVICE CONTROL ONE;2TWO;2THREE;2FOUR;NEGATIVE ACKNOWLmGE;SYNCHRONOUS IDLE
17;END OF TRANSMISSION BLOCK;CANCEL;END OF MmIUM;SUBSTITUTE;ESCAPE;gjAv SEPARATOR FOUR;2THREE;2TWO
1F;gjAv SEPARATOR ONE;SPACE;EXCLAMAv MARK;QUOTAv MARK;NUMBi n;DOLLAR n;PiCENT n;AMPiSl;APOSTROPHE
28;p PARENTHESIS;Rf PARENTHESIS;ASTiISK;PLUS n;COMMA;HYPHEN-MgUS;FULL STOP;SOLIDUS;DIGIT ZiO;1ONE
32;DIGIT TWO;1THREE;1FOUR;1FIVE;1SIX;1SEVEN;1Ef;1NgE;COLON;SEMICOLON;LESS-THAN n;EQUALS n
3E;GREATi-THAN n;QUESv MARK;COMMiCIAL AT;LATg d a A;3B;3C;3D;3E;3F;3G;3H;3I;3J;3K;3L;3M;3N;3O;3P
51;LATg d a Q;3R;3S;3T;3U;3V;3W;3X;3Y;3Z;p SQUARE BRACKET;REViSE SOLIDUS;Rf SQUARE BRACKET
5E;CIRCUMFLEX ACCENT;LOW LgE;GRAVE ACCENT;LATg e a A;3B;3C;3D;3E;3F;3G;3H;3I;3J;3K;3L;3M;3N;3O;3P
71;LATg e a Q;3R;3S;3T;3U;3V;3W;3X;3Y;3Z;p CURLY BRACKET;ViTICAL LgE;Rf CURLY BRACKET;TILDE;DELETE
80;PADDgG CHARACTi;HIGH OCTET PRESET;BREAK PiMITTm HiE;NO BREAK HiE;gDEX;NEXT LgE
86;START OF SELECTm AREA;END OF SELECTm AREA;CHARACTi TABULAv SET;2c JUSTIFICAv;LgE TABULAv SET
8B;PARTIAL LgE FORWARD;2BACKWARD;REViSE LgE FEm;SgGLE SHIFT TWO;2THREE;DEVICE CONTROL STRgG
91;PRIVATE USE ONE;2TWO;SET TRANSMIT STATE;CANCEL CHARACTi;MESSAGE WAITgG;START OF GUARDm AREA
97;END OF GUARDm AREA;START OF STRgG;SgGLE GRAPHIC CHARACTi gTRODUCi;1CHARACTi gTRODUCi
9B;CONTROL SEQUENCE gTRODUCi;STRgG TiMgATOR;OPiATgG SYSTEM COMMl;PRIVACY MESSAGE
9F;APPLICAv PROGRAM COMMl;NO-BREAK SPACE;gViTm EXCLAMAv MARK;CENT n;POUND n;CURRENCY n;YEN n
A6;BROKEN BAR;SECv n;DIAiESIS;COPYRf n;FEMggE ORDgAL gDICATOR;p-POgTgG r ANGLE QUOTAv MARK;NOT n
AD;SOFT HYPHEN;REGISTim n;MACRON;DEGREE n;PLUS-MgUS n;SUPiSCRIPT TWO;1THREE;ACUTE ACCENT;MICRO n
B6;PILCROW n;MIDDLE s;CmILLA;SUPiSCRIPT ONE;MASCULgE ORDgAL gDICATOR;Rf-POgTgG r ANGLE QUOTAv MARK
BC;VULGAR FRACv ONE QUARTi;3HALF;2THREE QUARTiS;gViTm QUESv MARK;LATg d a A c GRAVE;5ACUTE
C2;LATg d a A c CIRCUMFLEX;5TILDE;5DIAiESIS;5RgG q;3AE;3C c CmILLA;3E c GRAVE;5ACUTE;5CIRCUMFLEX
CB;LATg d a E c DIAiESIS;3I c GRAVE;5ACUTE;5CIRCUMFLEX;5DIAiESIS;3ETH;3N c TILDE;3O c GRAVE;5ACUTE
D4;LATg d a O c CIRCUMFLEX;5TILDE;5DIAiESIS;MULTIPLICAv n;LATg d a O c y;3U c GRAVE;5ACUTE
DB;LATg d a U c CIRCUMFLEX;5DIAiESIS;3Y c ACUTE;3THORN;1e a SHARP S;3A c GRAVE;5ACUTE;5CIRCUMFLEX
E3;LATg e a A c TILDE;5DIAiESIS;5RgG q;3AE;3C c CmILLA;3E c GRAVE;5ACUTE;5CIRCUMFLEX;5DIAiESIS
EC;LATg e a I c GRAVE;5ACUTE;5CIRCUMFLEX;5DIAiESIS;3ETH;3N c TILDE;3O c GRAVE;5ACUTE;5CIRCUMFLEX
F5;LATg e a O c TILDE;5DIAiESIS;DIVISION n;LATg e a O c y;3U c GRAVE;5ACUTE;5CIRCUMFLEX;5DIAiESIS
FD;LATg e a Y c ACUTE;3THORN;3Y c DIAiESIS;1d a A c MACRON;1e a A c MACRON;1d a A c BREVE
103;LATg e a A c BREVE;1d a A c OGONEK;1e a A c OGONEK;1d a C c ACUTE;1e a C c ACUTE
108;LATg d a C c CIRCUMFLEX;1e a C c CIRCUMFLEX;1d a C c s q;1e a C c s q;1d a C c CARON
10D;LATg e a C c CARON;1d a D c CARON;1e a D c CARON;1d a D c y;1e a D c y;1d a E c MACRON
113;LATg e a E c MACRON;1d a E c BREVE;1e a E c BREVE;1d a E c s q;1e a E c s q;1d a E c OGONEK
119;LATg e a E c OGONEK;1d a E c CARON;1e a E c CARON;1d a G c CIRCUMFLEX;1e a G c CIRCUMFLEX
11E;LATg d a G c BREVE;1e a G c BREVE;1d a G c s q;1e a G c s q;1d a G c CmILLA;1e a G c CmILLA
124;LATg d a H c CIRCUMFLEX;1e a H c CIRCUMFLEX;1d a H c y;1e a H c y;1d a I c TILDE
129;LATg e a I c TILDE;1d a I c MACRON;1e a I c MACRON;1d a I c BREVE;1e a I c BREVE
12E;LATg d a I c OGONEK;1e a I c OGONEK;1d a I c s q;1e a sLESS I;1d LIGATURE IJ;1e LIGATURE IJ
134;LATg d a J c CIRCUMFLEX;1e a J c CIRCUMFLEX;1d a K c CmILLA;1e a K c CmILLA;3KRA
139;LATg d a L c ACUTE;1e a L c ACUTE;1d a L c CmILLA;1e a L c CmILLA;1d a L c CARON
13E;LATg e a L c CARON;1d a L c MIDDLE s;1e a L c MIDDLE s;1d a L c y;1e a L c y;1d a N c ACUTE
144;LATg e a N c ACUTE;1d a N c CmILLA;1e a N c CmILLA;1d a N c CARON;1e a N c CARON
149;LATg e a N PRECmm BY APOSTROPHE;1d a ENG;1e a ENG;1d a O c MACRON;1e a O c MACRON
14E;LATg d a O c BREVE;1e a O c BREVE;1d a O c r ACUTE;1e a O c r ACUTE;1d LIGATURE OE
153;LATg e LIGATURE OE;1d a R c ACUTE;1e a R c ACUTE;1d a R c CmILLA;1e a R c CmILLA
158;LATg d a R c CARON;1e a R c CARON;1d a S c ACUTE;1e a S c ACUTE;1d a S c CIRCUMFLEX
15D;LATg e a S c CIRCUMFLEX;1d a S c CmILLA;1e a S c CmILLA;1d a S c CARON;1e a S c CARON
162;LATg d a T c CmILLA;1e a T c CmILLA;1d a T c CARON;1e a T c CARON;1d a T c y;1e a T c y
168;LATg d a U c TILDE;1e a U c TILDE;1d a U c MACRON;1e a U c MACRON;1d a U c BREVE
16D;LATg e a U c BREVE;1d a U c RgG q;1e a U c RgG q;1d a U c r ACUTE;1e a U c r ACUTE
172;LATg d a U c OGONEK;1e a U c OGONEK;1d a W c CIRCUMFLEX;1e a W c CIRCUMFLEX
176;LATg d a Y c CIRCUMFLEX;1e a Y c CIRCUMFLEX;1d a Y c DIAiESIS;3Z c ACUTE;1e a Z c ACUTE
17B;LATg d a Z c s q;1e a Z c s q;1d a Z c CARON;1e a Z c CARON;3LONG S;3B c y;1d a B c HOOK
182;LATg d a B c TOPBAR;1e a B c TOPBAR;1d a TONE SIX;1e a TONE SIX;1d a OPEN O;3C c HOOK
188;LATg e a C c HOOK;1d a AFRICAN D;3D c HOOK;5TOPBAR;1e a D c TOPBAR;3TURNm DELTA;1d a REViSm E
18F;LATg d a SCHWA;3OPEN E;3F c HOOK;1e a F c HOOK;1d a G c HOOK;3GAMMA;1e a HV;1d a IOTA;3I c y
198;LATg d a K c HOOK;1e a K c HOOK;3L c BAR;3LAMBDA c y;1d a TURNm M;3N c p HOOK
19E;LATg e a N c LONG Rf LEG;1d a O c MIDDLE TILDE;5HORN;1e a O c HORN;1d a OI;1e a OI
1A4;LATg d a P c HOOK;1e a P c HOOK;1a YR;1d a TONE TWO;1e a TONE TWO;1d a ESH;1a REViSm ESH LOOP
1AB;LATg e a T c PALATAL HOOK;1d a T c HOOK;1e a T c HOOK;1d a T c RETROFLEX HOOK;3U c HORN
1B0;LATg e a U c HORN;1d a UPSILON;3V c HOOK;3Y c HOOK;1e a Y c HOOK;1d a Z c y;1e a Z c y
1B7;LATg d a EZH;4REViSm;1e a EZH REViSm;4c TAIL;1a TWO c y;1d a TONE FIVE;1e a TONE FIVE
1BE;LATg a gViTm GLOTTAL STOP c y;2WYNN;2DENTAL CLICK;2LATiAL CLICK;2ALVEOLAR CLICK
1C3;LATg a RETROFLEX CLICK;1d a DZ c CARON;3D c e a Z c CARON;1e a DZ c CARON;1d a LJ;3L c e a J
1C9;LATg e a LJ;1d a NJ;3N c e a J;1e a NJ;1d a A c CARON;1e a A c CARON;1d a I c CARON
1D0;LATg e a I c CARON;1d a O c CARON;1e a O c CARON;1d a U c CARON;1e a U c CARON
1D5;LATg d a U c DIAiESIS l MACRON;1e a U c DIAiESIS l MACRON;1d a U c DIAiESIS l ACUTE
1D8;LATg e a U c DIAiESIS l ACUTE;1d a U c DIAiESIS l CARON;1e a U c DIAiESIS l CARON
1DB;LATg d a U c DIAiESIS l GRAVE;1e a U c DIAiESIS l GRAVE;3TURNm E;1d a A c DIAiESIS l MACRON
1DF;LATg e a A c DIAiESIS l MACRON;1d a A c s q l MACRON;1e a A c s q l MACRON;1d a AE c MACRON
1E3;LATg e a AE c MACRON;1d a G c y;1e a G c y;1d a G c CARON;1e a G c CARON;1d a K c CARON
1E9;LATg e a K c CARON;1d a O c OGONEK;1e a O c OGONEK;1d a O c OGONEK l MACRON
1ED;LATg e a O c OGONEK l MACRON;1d a EZH c CARON;1e a EZH c CARON;3J c CARON;1d a DZ;3D c e a Z
1F3;LATg e a DZ;1d a G c ACUTE;1e a G c ACUTE;1d a HWAIR;3WYNN;3N c GRAVE;1e a N c GRAVE
1FA;LATg d a A c RgG q l ACUTE;1e a A c RgG q l ACUTE;1d a AE c ACUTE;1e a AE c ACUTE
1FE;LATg d a O c y l ACUTE;1e a O c y l ACUTE;1d a A c r GRAVE;1e a A c r GRAVE
202;LATg d a A c gViTm BREVE;1e a A c gViTm BREVE;1d a E c r GRAVE;1e a E c r GRAVE
206;LATg d a E c gViTm BREVE;1e a E c gViTm BREVE;1d a I c r GRAVE;1e a I c r GRAVE
20A;LATg d a I c gViTm BREVE;1e a I c gViTm BREVE;1d a O c r GRAVE;1e a O c r GRAVE
20E;LATg d a O c gViTm BREVE;1e a O c gViTm BREVE;1d a R c r GRAVE;1e a R c r GRAVE
212;LATg d a R c gViTm BREVE;1e a R c gViTm BREVE;1d a U c r GRAVE;1e a U c r GRAVE
216;LATg d a U c gViTm BREVE;1e a U c gViTm BREVE;1d a S c COMMA x;1e a S c COMMA x
21A;LATg d a T c COMMA x;1e a T c COMMA x;1d a YOGH;1e a YOGH;1d a H c CARON;1e a H c CARON
220;LATg d a N c LONG Rf LEG;1e a D c CURL;1d a OU;1e a OU;1d a Z c HOOK;1e a Z c HOOK
226;LATg d a A c s q;1e a A c s q;1d a E c CmILLA;1e a E c CmILLA;1d a O c DIAiESIS l MACRON
22B;LATg e a O c DIAiESIS l MACRON;1d a O c TILDE l MACRON;1e a O c TILDE l MACRON;1d a O c s q
22F;LATg e a O c s q;1d a O c s q l MACRON;1e a O c s q l MACRON;1d a Y c MACRON;1e a Y c MACRON
234;LATg e a L c CURL;3N c CURL;3T c CURL;3sLESS J;3DB DIGRAPH;3QP DIGRAPH;1d a A c y;3C c y
23C;LATg e a C c y;1d a L c BAR;3T c DIAGONAL y;1e a S c SWASH TAIL;3Z c SWASH TAIL
241;LATg d a GLOTTAL STOP;1e a GLOTTAL STOP;1d a B c y;3U BAR;3TURNm V;3E c y;1e a E c y
248;LATg d a J c y;1e a J c y;1d a e Q c HOOK TAIL;1e a Q c HOOK TAIL;1d a R c y;1e a R c y
24E;LATg d a Y c y;1e a Y c y;3TURNm A;3ALPHA;3TURNm ALPHA;3B c HOOK;3OPEN O;3C c CURL;3D c TAIL
257;LATg e a D c HOOK;3REViSm E;3SCHWA;4c HOOK;3OPEN E;3REViSm OPEN E;6c HOOK;3CLOSm REViSm OPEN E
25F;LATg e a sLESS J c y;3G c HOOK;3SCRIPT G;1a e d G;1e a GAMMA;3RAMS HORN;3TURNm H;3H c HOOK
267;LATg e a HENG c HOOK;3I c y;3IOTA;1a e d I;1e a L c MIDDLE TILDE;5BELT;5RETROFLEX HOOK;3LEZH
26F;LATg e a TURNm M;5c LONG LEG;3M c HOOK;3N c p HOOK;5RETROFLEX HOOK;1a e d N;1e a BARRm O
276;LATg a e d OE;1e a CLOSm OMEGA;3PHI;3TURNm R;5c LONG LEG;6HOOK;3R c LONG LEG;5TAIL;5FISHHOOK
27F;LATg e a REViSm R c FISHHOOK;1a e d R;4gViTm R;1e a S c HOOK;3ESH;3sLESS J c y l HOOK
285;LATg e a SQUAT REViSm ESH;3ESH c CURL;3TURNm T;3T c RETROFLEX HOOK;3U BAR;3UPSILON;3V c HOOK
28C;LATg e a TURNm V;4W;4Y;1a e d Y;1e a Z c RETROFLEX HOOK;5CURL;3EZH;4c CURL;1a GLOTTAL STOP
295;LATg a PHARYNGEAL VOICm FRICATIVE;2gViTm GLOTTAL STOP;2STRETCHm C;2BILABIAL CLICK;2e d B
29A;LATg e a CLOSm OPEN E;1a e d G c HOOK;4H;1e a J c CROSSm-TAIL;3TURNm K;1a e d L;1e a Q c HOOK
2A1;LATg a GLOTTAL STOP c y;2REViSm GLOTTAL STOP c y;1e a DZ DIGRAPH;3DEZH DIGRAPH
2A5;LATg e a DZ DIGRAPH c CURL;3TS DIGRAPH;3TESH DIGRAPH;3TC DIGRAPH c CURL;3FENG DIGRAPH
2AA;LATg e a LS DIGRAPH;3LZ DIGRAPH;1a BILABIAL PiCUSSIVE;2BIDENTAL PiCUSSIVE
2AE;LATg e a TURNm H c FISHHOOK;7l TAIL;MODIFIi a e H;4c HOOK;3J;3R;3TURNm R;5c HOOK;3d gViTm R;3W
2B8;MODIFIi a e Y;2PRIME;2r PRIME;2TURNm COMMA;2APOSTROPHE;2REViSm COMMA;2Rf HALF RgG;2p HALF RgG
2C0;MODIFIi a GLOTTAL STOP;2REViSm GLOTTAL STOP;2p hHEAD;2Rf hHEAD;2UP hHEAD;2DOWN hHEAD
2C6;MODIFIi a CIRCUMFLEX ACCENT;CARON;MODIFIi a ViTICAL LgE;2MACRON;2ACUTE ACCENT;2GRAVE ACCENT
2CC;MODIFIi a LOW ViTICAL LgE;3MACRON;3GRAVE ACCENT;3ACUTE ACCENT;2TRIANGULAR COLON
2D1;MODIFIi a HALF TRIANGULAR COLON;2CENTRm Rf HALF RgG;3p HALF RgG;2UP TACK;2DOWN TACK;2PLUS n
2D7;MODIFIi a MgUS n;BREVE;s q;RgG q;OGONEK;e TILDE;r ACUTE ACCENT;MODIFIi a RHOTIC HOOK
2DF;MODIFIi a CROSS ACCENT;2e GAMMA;3L;3S;3X;3REViSm GLOTTAL STOP;2EXTRA-HIGH TONE BAR
2E6;MODIFIi a HIGH TONE BAR;2MID TONE BAR;2LOW TONE BAR;2EXTRA-LOW TONE BAR;2Yg DEPARTgG TONE MARK
2EB;MODIFIi a YANG DEPARTgG TONE MARK;2VOICgG;2UNASPIRATm;2r APOSTROPHE;2LOW DOWN hHEAD;3UP hHEAD
2F1;MODIFIi a LOW p hHEAD;3Rf hHEAD;3RgG;2MIDDLE GRAVE ACCENT;3r GRAVE ACCENT;4ACUTE ACCENT
2F7;MODIFIi a LOW TILDE;2RAISm COLON;2BEGg HIGH TONE;2END HIGH TONE;2BEGg LOW TONE;2END LOW TONE
2FD;MODIFIi a SHELF;2OPEN SHELF;2LOW p h;COMBggG GRAVE ACCENT;1ACUTE ACCENT;1CIRCUMFLEX ACCENT
303;COMBggG TILDE;1MACRON;1OViLgE;1BREVE;1s q;1DIAiESIS;1HOOK q;1RgG q;1r ACUTE ACCENT;1CARON
30D;COMBggG ViTICAL LgE q;1r ViTICAL LgE q;2GRAVE ACCENT;1ClRABgDU;1gViTm BREVE;1TURNm COMMA q
313;COMBggG COMMA q;1REViSm COMMA q;1COMMA q Rf;1GRAVE ACCENT x;1ACUTE ACCENT x;1p TACK x
319;COMBggG Rf TACK x;1p ANGLE q;1HORN;1p HALF RgG x;1UP TACK x;1DOWN TACK x;1PLUS n x;1MgUS n x
321;COMBggG PALATALIZm HOOK x;1RETROFLEX HOOK x;1s x;1DIAiESIS x;1RgG x;1COMMA x;1CmILLA;1OGONEK
329;COMBggG ViTICAL LgE x;1BRIDGE x;1gViTm r ARCH x;1CARON x;1CIRCUMFLEX ACCENT x;1BREVE x
32F;COMBggG gViTm BREVE x;1TILDE x;1MACRON x;1LOW LgE;1r LOW LgE;1TILDE OViLAY;1SHORT y OViLAY
336;COMBggG LONG y OViLAY;1SHORT SOLIDUS OViLAY;1LONG SOLIDUS OViLAY;1Rf HALF RgG x
33A;COMBggG gViTm BRIDGE x;1SQUARE x;1SEAGULL x;1X q;1ViTICAL TILDE;1r OViLgE;1GRAVE TONE MARK
341;COMBggG ACUTE TONE MARK;1GREEK PiISPOMENI;2KORONIS;2DIALYTIKA TONOS;2YPOGEGRAMMENI;1BRIDGE q
347;COMBggG EQUALS n x;1r ViTICAL LgE x;1p ANGLE x;1NOT TILDE q;1HOMOTHETIC q;1ALMOST EQUAL TO q
34D;COMBggG p Rf h x;1UPk h x;1GRAPHEME JOgi;1Rf hHEAD q;1p HALF RgG q;1FiMATA;1X x;1p hHEAD x
355;COMBggG Rf hHEAD x;3l UP hHEAD x;2HALF RgG q;1s q Rf;1ASTiISK x;1r RgG x;1ZIGZAG q;1r BREVE x
35D;COMBggG r BREVE;2MACRON;3x;2TILDE;2gViTm BREVE;2Rfk h x;1LATg e a A;4E;4I;4O;4U;4C;4D;4H;4M;4R
36D;COMBggG LATg e a T;4V;4X;GREEK d a HETA;1e a HETA;1d a ARCHAIC SAMPI;1e a ARCHAIC SAMPI
374;GREEK NUMiAL n;1LOWi NUMiAL n;1d a PAMPHYLIAN DIGAMMA;1e a PAMPHYLIAN DIGAMMA
37A;GREEK YPOGEGRAMMENI;1e REViSm LUNATE SIGMA u;2sTm LUNATE SIGMA u;2REViSm sTm LUNATE SIGMA u
37E;GREEK QUESv MARK;1d a YOT
384;GREEK TONOS;1DIALYTIKA TONOS;1d a ALPHA c TONOS;1ANO TELEIA;1d a EPSILON c TONOS;3ETA c TONOS
38A;GREEK d a IOTA c TONOS
38C;GREEK d a OMICRON c TONOS
38E;GREEK d a UPSILON c TONOS;3OMEGA c TONOS;1e a IOTA c DIALYTIKA l TONOS;1d a ALPHA;3BETA;3GAMMA
394;GREEK d a DELTA;3EPSILON;3ZETA;3ETA;3THETA;3IOTA;3KAPPA;3LAMDA;3MU;3NU;3XI;3OMICRON;3PI;3RHO
3A3;GREEK d a SIGMA;3TAU;3UPSILON;3PHI;3CHI;3PSI;3OMEGA;3IOTA c DIALYTIKA;3UPSILON c DIALYTIKA
3AC;GREEK e a ALPHA c TONOS;3EPSILON c TONOS;3ETA c TONOS;3IOTA c TONOS
3B0;GREEK e a UPSILON c DIALYTIKA l TONOS;3ALPHA;3BETA;3GAMMA;3DELTA;3EPSILON;3ZETA;3ETA;3THETA
3B9;GREEK e a IOTA;3KAPPA;3LAMDA;3MU;3NU;3XI;3OMICRON;3PI;3RHO;3FgAL SIGMA;3SIGMA;3TAU;3UPSILON
3C6;GREEK e a PHI;3CHI;3PSI;3OMEGA;3IOTA c DIALYTIKA;3UPSILON c DIALYTIKA;3OMICRON c TONOS
3CD;GREEK e a UPSILON c TONOS;3OMEGA c TONOS;1d KAI u;1BETA u;1THETA u;1UPSILON c HOOK u
3D3;GREEK UPSILON c ACUTE l HOOK u;3DIAiESIS l HOOK u;1PHI u;1PI u;1KAI u;1a ARCHAIC KOPPA
3D9;GREEK e a ARCHAIC KOPPA;1a STIGMA;1e a STIGMA;1a DIGAMMA;1e a DIGAMMA;1a KOPPA;1e a KOPPA
3E0;GREEK a SAMPI;1e a SAMPI;COPTIC d a SHEI;1e a SHEI;1d a FEI;1e a FEI;1d a KHEI;1e a KHEI
3E8;COPTIC d a HORI;1e a HORI;1d a GANGIA;1e a GANGIA;1d a SHIMA;1e a SHIMA;1d a DEI;1e a DEI
3F0;GREEK KAPPA u;1RHO u;1LUNATE SIGMA u;1a YOT;1d THETA u;1LUNATE EPSILON u
3F6;GREEK REViSm LUNATE EPSILON u;1d a SHO;1e a SHO;1d LUNATE SIGMA u;2a SAN;1e a SAN;1RHO c y u
3FD;GREEK d REViSm LUNATE SIGMA u;2sTm LUNATE SIGMA u;2REViSm sTm LUNATE SIGMA u
400;CYRILLIC d a IE c GRAVE;3IO;3DJE;3GJE;3UKRAgIAN IE;3DZE;3BYELORUSSIAN-UKRAgIAN I;3YI;3JE;3LJE
40A;CYRILLIC d a NJE;3TSHE;3KJE;3I c GRAVE;3SHORT U;3DZHE;3A;3BE;3VE;3GHE;3DE;3IE;3ZHE;3ZE;3I
419;CYRILLIC d a SHORT I;3KA;3EL;3EM;3EN;3O;3PE;3i;3ES;3TE;3U;3EF;3HA;3TSE;3CHE;3SHA;3SHCHA
42A;CYRILLIC d a HARD n;3YiU;3SOFT n;3E;3YU;3YA;1e a A;3BE;3VE;3GHE;3DE;3IE;3ZHE;3ZE;3I;3SHORT I
43A;CYRILLIC e a KA;3EL;3EM;3EN;3O;3PE;3i;3ES;3TE;3U;3EF;3HA;3TSE;3CHE;3SHA;3SHCHA;3HARD n;3YiU
44C;CYRILLIC e a SOFT n;3E;3YU;3YA;3IE c GRAVE;3IO;3DJE;3GJE;3UKRAgIAN IE;3DZE
456;CYRILLIC e a BYELORUSSIAN-UKRAgIAN I;3YI;3JE;3LJE;3NJE;3TSHE;3KJE;3I c GRAVE;3SHORT U;3DZHE
460;CYRILLIC d a OMEGA;1e a OMEGA;1d a YAT;1e a YAT;1d a IOTIFIm E;1e a IOTIFIm E;1d a LITTLE YUS
467;CYRILLIC e a LITTLE YUS;1d a IOTIFIm LITTLE YUS;1e a IOTIFIm LITTLE YUS;1d a BIG YUS
46B;CYRILLIC e a BIG YUS;1d a IOTIFIm BIG YUS;1e a IOTIFIm BIG YUS;1d a KSI;1e a KSI;1d a PSI
471;CYRILLIC e a PSI;1d a FITA;1e a FITA;1d a IZHITSA;1e a IZHITSA;1d a IZHITSA c r GRAVE ACCENT
477;CYRILLIC e a IZHITSA c r GRAVE ACCENT;1d a UK;1e a UK;1d a ROUND OMEGA;1e a ROUND OMEGA
47C;CYRILLIC d a OMEGA c TITLO;1e a OMEGA c TITLO;1d a OT;1e a OT;1d a KOPPA;1e a KOPPA;1THOUSlS n
483;COMBggG CYRILLIC TITLO;2PALATALIZAv;2DASIA PNEUMATA;2PSILI PNEUMATA;2POKRYTIE
488;COMBggG CYRILLIC HUNDRm THOUSlS n;2MILLIONS n;CYRILLIC d a SHORT I c TAIL;1e a SHORT I c TAIL
48C;CYRILLIC d a SEMISOFT n;1e a SEMISOFT n;1d a i c TICK;1e a i c TICK;1d a GHE c UPTURN
491;CYRILLIC e a GHE c UPTURN;1d a GHE c y;1e a GHE c y;1d a GHE c MIDDLE HOOK
495;CYRILLIC e a GHE c MIDDLE HOOK;1d a ZHE c DESCENDi;1e a ZHE c DESCENDi;1d a ZE c DESCENDi
499;CYRILLIC e a ZE c DESCENDi;1d a KA c DESCENDi;1e a KA c DESCENDi;1d a KA c ViTICAL y
49D;CYRILLIC e a KA c ViTICAL y;1d a KA c y;1e a KA c y;1d a BASHKIR KA;1e a BASHKIR KA
4A2;CYRILLIC d a EN c DESCENDi;1e a EN c DESCENDi;1d LIGATURE EN GHE;1e LIGATURE EN GHE
4A6;CYRILLIC d a PE c MIDDLE HOOK;1e a PE c MIDDLE HOOK;1d a ABKHASIAN HA;1e a ABKHASIAN HA
4AA;CYRILLIC d a ES c DESCENDi;1e a ES c DESCENDi;1d a TE c DESCENDi;1e a TE c DESCENDi
4AE;CYRILLIC d a STRAf U;1e a STRAf U;1d a STRAf U c y;1e a STRAf U c y;1d a HA c DESCENDi
4B3;CYRILLIC e a HA c DESCENDi;1d LIGATURE TE TSE;1e LIGATURE TE TSE;1d a CHE c DESCENDi
4B7;CYRILLIC e a CHE c DESCENDi;1d a CHE c ViTICAL y;1e a CHE c ViTICAL y;1d a SHHA;1e a SHHA
4BC;CYRILLIC d a ABKHASIAN CHE;1e a ABKHASIAN CHE;1d a ABKHASIAN CHE c DESCENDi
4BF;CYRILLIC e a ABKHASIAN CHE c DESCENDi;1a PALOCHKA;1d a ZHE c BREVE;1e a ZHE c BREVE
4C3;CYRILLIC d a KA c HOOK;1e a KA c HOOK;1d a EL c TAIL;1e a EL c TAIL;1d a EN c HOOK
4C8;CYRILLIC e a EN c HOOK;1d a EN c TAIL;1e a EN c TAIL;1d a KHAKASSIAN CHE;1e a KHAKASSIAN CHE
4CD;CYRILLIC d a EM c TAIL;1e a EM c TAIL;3PALOCHKA;1d a A c BREVE;1e a A c BREVE
4D2;CYRILLIC d a A c DIAiESIS;1e a A c DIAiESIS;1d LIGATURE A IE;1e LIGATURE A IE;1d a IE c BREVE
4D7;CYRILLIC e a IE c BREVE;1d a SCHWA;1e a SCHWA;1d a SCHWA c DIAiESIS;1e a SCHWA c DIAiESIS
4DC;CYRILLIC d a ZHE c DIAiESIS;1e a ZHE c DIAiESIS;1d a ZE c DIAiESIS;1e a ZE c DIAiESIS
4E0;CYRILLIC d a ABKHASIAN DZE;1e a ABKHASIAN DZE;1d a I c MACRON;1e a I c MACRON
4E4;CYRILLIC d a I c DIAiESIS;1e a I c DIAiESIS;1d a O c DIAiESIS;1e a O c DIAiESIS;1d a BARRm O
4E9;CYRILLIC e a BARRm O;1d a BARRm O c DIAiESIS;1e a BARRm O c DIAiESIS;1d a E c DIAiESIS
4ED;CYRILLIC e a E c DIAiESIS;1d a U c MACRON;1e a U c MACRON;1d a U c DIAiESIS;1e a U c DIAiESIS
4F2;CYRILLIC d a U c r ACUTE;1e a U c r ACUTE;1d a CHE c DIAiESIS;1e a CHE c DIAiESIS
4F6;CYRILLIC d a GHE c DESCENDi;1e a GHE c DESCENDi;1d a YiU c DIAiESIS;1e a YiU c DIAiESIS
4FA;CYRILLIC d a GHE c y l HOOK;1e a GHE c y l HOOK;1d a HA c HOOK;1e a HA c HOOK;1d a HA c y
4FF;CYRILLIC e a HA c y;1d a KOMI DE;1e a KOMI DE;1d a KOMI DJE;1e a KOMI DJE;1d a KOMI ZJE
505;CYRILLIC e a KOMI ZJE;1d a KOMI DZJE;1e a KOMI DZJE;1d a KOMI LJE;1e a KOMI LJE;1d a KOMI NJE
50B;CYRILLIC e a KOMI NJE;1d a KOMI SJE;1e a KOMI SJE;1d a KOMI TJE;1e a KOMI TJE;1d a REViSm ZE
511;CYRILLIC e a REViSm ZE;1d a EL c HOOK;1e a EL c HOOK;1d a LHA;1e a LHA;1d a RHA;1e a RHA
518;CYRILLIC d a YAE;1e a YAE;1d a QA;1e a QA;1d a WE;1e a WE;1d a ALEUT KA;1e a ALEUT KA
520;CYRILLIC d a EL c MIDDLE HOOK;1e a EL c MIDDLE HOOK;1d a EN c MIDDLE HOOK
523;CYRILLIC e a EN c MIDDLE HOOK;1d a PE c DESCENDi;1e a PE c DESCENDi;1d a SHHA c DESCENDi
527;CYRILLIC e a SHHA c DESCENDi;1d a EN c p HOOK;1e a EN c p HOOK;1d a DZZHE;1e a DZZHE;1d a DCHE
52D;CYRILLIC e a DCHE;1d a EL c DESCENDi;1e a EL c DESCENDi
531;ARMENIAN d a AYB;3BEN;3GIM;3DA;3ECH;3ZA;3EH;3ET;3TO;3ZHE;3gI;3LIWN;3XEH;3CA;3KEN;3HO;3JA;3GHAD
543;ARMENIAN d a CHEH;3MEN;3YI;3NOW;3SHA;3VO;3CHA;3PEH;3JHEH;3RA;3SEH;3VEW;3TIWN;3REH;3CO;3YIWN
553;ARMENIAN d a PIWR;3KEH;3OH;3FEH
559;ARMENIAN MODIFIi a p HALF RgG;1APOSTROPHE;1EMPHASIS MARK;1EXCLAMAv MARK;1COMMA;1QUESv MARK
55F;ARMENIAN ABBREVIAv MARK;1e a TURNm AYB;3AYB;3BEN;3GIM;3DA;3ECH;3ZA;3EH;3ET;3TO;3ZHE;3gI;3LIWN
56D;ARMENIAN e a XEH;3CA;3KEN;3HO;3JA;3GHAD;3CHEH;3MEN;3YI;3NOW;3SHA;3VO;3CHA;3PEH;3JHEH;3RA;3SEH
57E;ARMENIAN e a VEW;3TIWN;3REH;3CO;3YIWN;3PIWR;3KEH;3OH;3FEH;2LIGATURE ECH YIWN;2a YI c y
589;ARMENIAN FULL STOP;1HYPHEN
58D;Rf-FACgG ARMENIAN ETiNITY n;p-FACgG ARMENIAN ETiNITY n;ARMENIAN DRAM n
591;HEBREW ACCENT ETNAHTA;2SEGOL;2SHALSHELET;2ZAQEF QATAN;3GADOL;2TIPEHA;2REVIA;2ZARQA;2PASHTA
59A;HEBREW ACCENT YETIV;2TEVIR;2GiESH;3MUQDAM;2GiSHAYIM;2QARNEY PARA;2TELISHA GmOLA;2PAZi
5A2;HEBREW ACCENT ATNAH HAFUKH;2MUNAH;2MAHAPAKH;2MiKHA;3KEFULA;2DARGA;2QADMA;2TELISHA QETANA
5AA;HEBREW ACCENT YiAH BEN YOMO;2OLE;2ILUY;2DEHI;2ZgOR;1MARK MASORA CIRCLE;1POgT SHEVA
5B1;HEBREW POgT HATAF SEGOL;3PATAH;3QAMATS;2HIRIQ;2TSiE;2SEGOL;2PATAH;2QAMATS;2HOLAM;3HASi FOR VAV
5BB;HEBREW POgT QUBUTS;2DAGESH OR MAPIQ;2METEG;1PUNCTUAv MAQAF;1POgT RAFE;1PUNCTUAv PASEQ
5C1;HEBREW POgT SHg s;2Sg s;1PUNCTUAv SOF PASUQ;1MARK UPPi s;2LOWi s;1PUNCTUAv NUN HAFUKHA
5C7;HEBREW POgT QAMATS QATAN
5D0;HEBREW a ALEF;2BET;2GIMEL;2DALET;2HE;2VAV;2ZAYg;2HET;2TET;2YOD;2FgAL KAF;2KAF;2LAMm;2FgAL MEM
5DE;HEBREW a MEM;2FgAL NUN;2NUN;2SAMEKH;2AYg;2FgAL PE;2PE;2FgAL TSADI;2TSADI;2QOF;2RESH;2SHg;2TAV
5EF;HEBREW YOD w;1LIGATURE YIDDISH r VAV;3VAV YOD;3r YOD;1PUNCTUAv GiESH;2GiSHAYIM
600;ARABIC NUMBi n;1n SANAH;1FOOTNOTE MARKi;1n SAFHA;2SAMVAT;1NUMBi MARK q;ARABIC-gDIC CUBE ROOT
607;ARABIC-gDIC FOURTH ROOT;ARABIC RAY;ARABIC-gDIC Pi MILLE n;2TEN THOUSl n;AFGHANI n;ARABIC COMMA
60D;ARABIC DATE SEPARATOR;1POETIC ViSE n;1n MISRA;2SALLALLAHOU ALAYHE WASSALLAM;2ALAYHE ASSALLAM
612;ARABIC n RAHMATULLAH ALAYHE;2RADI ALLAHOU ANHU;2TAKHALLUS;1e HIGH TAH
616;ARABIC e HIGH LIGATURE ALEF c LAM c YEH;3ZAg;2FATHA;2DAMMA;2KASRA;1SEMICOLON;1a MARK
61D;ARABIC END OF TEXT MARK;1TRIPLE s PUNCTUAv MARK;1QUESv MARK;1a KASHMIRI YEH;2HAMZA
622;ARABIC a ALEF c MADDA q;4HAMZA q;2WAW c HAMZA q;2ALEF c HAMZA x;2YEH c HAMZA q;2ALEF;2BEH
629;ARABIC a TEH MARBUTA;2TEH;2THEH;2JEEM;2HAH;2KHAH;2DAL;2THAL;2REH;2ZAg;2SEEN;2SHEEN;2SAD;2DAD
637;ARABIC a TAH;2ZAH;2Ag;2GHAg;2KEHEH c TWO sS q;4THREE sS x;2FARSI YEH c gViTm V;5TWO sS q
63F;ARABIC a FARSI YEH c THREE sS q;1TATWEEL;1a FEH;2QAF;2KAF;2LAM;2MEEM;2NOON;2HEH;2WAW
649;ARABIC a ALEF MAKSURA;2YEH;1FATHATAN;1DAMMATAN;1KASRATAN;1FATHA;1DAMMA;1KASRA;1SHADDA;1SUKUN
653;ARABIC MADDAH q;1HAMZA q;2x;1SUBSCRIPT ALEF;1gViTm DAMMA;1MARK NOON GHUNNA;1ZWARAKAY
65A;ARABIC VOWEL n e V q;3gViTm e V q;3s x;1REViSm DAMMA;1FATHA c TWO sS;1WAVY HAMZA x
660;ARABIC-gDIC DIGIT ZiO;2ONE;2TWO;2THREE;2FOUR;2FIVE;2SIX;2SEVEN;2Ef;2NgE;ARABIC PiCENT n
66B;ARABIC DECIMAL SEPARATOR;1THOUSlS SEPARATOR;1FIVE POgTm STAR;1a sLESS BEH;3QAF
670;ARABIC a SUPiSCRIPT ALEF;2ALEF WASLA;3c WAVY HAMZA q;6x;2HIGH HAMZA;4ALEF;4WAW;2U c HAMZA q
678;ARABIC a HIGH HAMZA YEH;2TTEH;2TTEHEH;2BEEH;2TEH c RgG;4THREE sS q DOWNk;2PEH;2TEHEH;2BEHEH
681;ARABIC a HAH c HAMZA q;4TWO sS ViTICAL q;2NYEH;2DYEH;2HAH c THREE sS q;2TCHEH;2TCHEHEH;2DDAL
689;ARABIC a DAL c RgG;4s x;6l e TAH;2DAHAL;2DDAHAL;2DUL;2DAL c THREE sS q DOWNk;4FOUR sS q;2RREH
692;ARABIC a REH c e V;4RgG;4s x;4e V x;4s x l s q;4TWO sS q;2JEH;2REH c FOUR sS q
69A;ARABIC a SEEN c s x l s q;4THREE sS x;7l THREE sS q;2SAD c TWO sS x;4THREE sS q
69F;ARABIC a TAH c THREE sS q;2Ag c THREE sS q;2sLESS FEH;2FEH c s MOVm x;5x;2VEH
6A5;ARABIC a FEH c THREE sS x;2PEHEH;2QAF c s q;4THREE sS q;2KEHEH;2SWASH KAF;2KAF c RgG;4s q;2NG
6AE;ARABIC a KAF c THREE sS x;2GAF;3c RgG;2NGOEH;2GAF c TWO sS x;2GUEH;2GAF c THREE sS q
6B5;ARABIC a LAM c e V;4s q;4THREE sS q;6x;2NOON c s x;3GHUNNA;2RNOON;2NOON c RgG;4THREE sS q
6BE;ARABIC a HEH DOACHASHMEE;2TCHEH c s q;2HEH c YEH q;3GOAL;4c HAMZA q;2TEH MARBUTA GOAL
6C4;ARABIC a WAW c RgG;2KIRGHIZ OE;2OE;2U;2YU;2KIRGHIZ YU;2WAW c TWO sS q;2VE;2FARSI YEH
6CD;ARABIC a YEH c TAIL;4e V;2WAW c s q;2E;2YEH c THREE sS x;3BARREE;4c HAMZA q;1FULL STOP;1a AE
6D6;ARABIC e HIGH LIGATURE SAD c LAM c ALEF MAKSURA;4QAF c LAM c ALEF MAKSURA;3MEEM gITIAL j
6D9;ARABIC e HIGH LAM ALEF;3JEEM;3THREE sS;3SEEN;1END OF AYAH;1START OF RUB EL HIZB
6DF;ARABIC e HIGH ROUNDm ZiO;3UPRf RECTANGULAR ZiO;3sLESS HEAD OF KHAH;3MEEM ISOLATm j;2LOW SEEN
6E4;ARABIC e HIGH MADDA;2WAW;2YEH;2HIGH YEH;3NOON;1PLACE OF SAJDAH;1EMPTY CENTRE LOW STOP
6EB;ARABIC EMPTY CENTRE HIGH STOP;1ROUNDm HIGH STOP c FILLm CENTRE;1e LOW MEEM;1a DAL c gViTm V
6EF;ARABIC a REH c gViTm V;EXTENDm ARABIC-gDIC DIGIT ZiO;3ONE;3TWO;3THREE;3FOUR;3FIVE;3SIX;3SEVEN
6F8;EXTENDm ARABIC-gDIC DIGIT Ef;3NgE;ARABIC a SHEEN c s x;2DAD c s x;2GHAg c s x;1n SgDHI AMPiSl
6FE;ARABIC n SgDHI POSTPOSIv MEN;1a HEH c gViTm V;SYRIAC END OF PARAGRAPH;1SUPRALgEAR FULL STOP
702;SYRIAC SUBLgEAR FULL STOP;1SUPRALgEAR COLON;1SUBLgEAR COLON;1t COLON;1COLON SKEWm p;3Rf
708;SYRIAC SUPRALgEAR COLON SKEWm p;1SUBLgEAR COLON SKEWm Rf;1CONTRACv;1HARKLEAN OBELUS;2METOBELUS
70D;SYRIAC HARKLEAN ASTiISCUS
70F;SYRIAC ABBREVIAv MARK;1a ALAPH;2SUPiSCRIPT ALAPH;2BETH;2GAMAL;3GARSHUNI;2DALATH
716;SYRIAC a sLESS DALATH RISH;2HE;2WAW;2ZAg;2HETH;2TETH;3GARSHUNI;2YUDH;3HE;2KAPH;2LAMADH;2MIM
722;SYRIAC a NUN;2SEMKATH;2FgAL SEMKATH;2E;2PE;2REViSm PE;2SADHE;2QAPH;2RISH;2SHg;2TAW
72D;SYRIAC a PiSIAN BHETH;3GHAMAL;3DHALATH;1PTHAHA q;2x;2sTm;1ZQAPHA q;2x;2sTm;1RBASA q;2x
738;SYRIAC sTm ZLAMA t;3ANGULAR;1HBASA q;2x;1HBASA-ESASA sTm;1ESASA q;2x;1RWAHA;1FEMggE s
741;SYRIAC QUSHSHAYA;1RUKKAKHA;1TWO ViTICAL sS q;4x;1THREE sS q;3x;1OBLIQUE LgE q;3x;1MUSIC
74A;SYRIAC BARREKH
74D;SYRIAC a SOGDIAN ZHAg;3KHAPH;3FE;ARABIC a BEH c THREE sS tLY x;4s x l THREE sS q
752;ARABIC a BEH c THREE sS POgTgG UPk x;9l TWO sS q;4TWO sS x l s q;4gViTm e V x;4e V
757;ARABIC a HAH c TWO sS q;4THREE sS POgTgG UPk x;2DAL c TWO sS ViTICALLY x l e TAH;4gViTm e V x
75B;ARABIC a REH c y;2SEEN c FOUR sS q;2Ag c TWO sS q;4THREE sS POgTgG DOWNk q;4TWO sS ViTICALLY q
760;ARABIC a FEH c TWO sS x;4THREE sS POgTgG UPk x;2KEHEH c s q;4THREE sS q;6POgTgG UPk x
765;ARABIC a MEEM c s q;5x;2NOON c TWO sS x;4e TAH;5V;2LAM c BAR;2REH c TWO sS ViTICALLY q
76C;ARABIC a REH c HAMZA q;2SEEN c TWO sS ViTICALLY q;2HAH c e ARABIC a TAH x;8l TWO sS
770;ARABIC a SEEN c e ARABIC a TAH l TWO sS;2REH c e ARABIC a TAH l TWO sS;2HAH c e ARABIC a TAH q
773;ARABIC a ALEF c EXTENDm ARABIC-gDIC DIGIT TWO q;7THREE q
775;ARABIC a FARSI YEH c EXTENDm ARABIC-gDIC DIGIT TWO q;8THREE q;8FOUR x
778;ARABIC a WAW c EXTENDm ARABIC-gDIC DIGIT TWO q;7THREE q
77A;ARABIC a YEH BARREE c EXTENDm ARABIC-gDIC DIGIT TWO q;8THREE q
77C;ARABIC a HAH c EXTENDm ARABIC-gDIC DIGIT FOUR x;2SEEN c EXTENDm ARABIC-gDIC DIGIT FOUR q
77E;ARABIC a SEEN c gViTm V;2KAF c TWO sS q;THAANA a HAA;2SHAVIYANI;2NOONU;2RAA;2BAA;2LHAVIYANI
786;THAANA a KAAFU;2ALIFU;2VAAVU;2MEEMU;2FAAFU;2DHAALU;2THAA;2LAAMU;2GAAFU;2GNAVIYANI;2SEENU
791;THAANA a DAVIYANI;2ZAVIYANI;2TAVIYANI;2YAA;2PAVIYANI;2JAVIYANI;2CHAVIYANI;2TTAA;2HHAA;2KHAA
79B;THAANA a THAALU;2ZAA;2SHEENU;2SAADHU;2DAADHU;2TO;2ZO;2AgU;2GHAgU;2QAAFU;2WAAVU;1ABAFILI
7A7;THAANA AABAAFILI;1IBIFILI;1EEBEEFILI;1UBUFILI;1OOBOOFILI;1EBEFILI;1EYBEYFILI;1OBOFILI
7AF;THAANA OABOAFILI;1SUKUN;1a NAA
7C0;NKO DIGIT ZiO;2ONE;2TWO;2THREE;2FOUR;2FIVE;2SIX;2SEVEN;2Ef;2NgE;1a A;2EE;2I;2E;2U;2OO;2O
7D1;NKO a DAGBASgNA;2N;2BA;2PA;2TA;2JA;2CHA;2DA;2RA;2RRA;2SA;2GBA;2FA;2KA;2LA;2NA WOLOSO;2MA;2NYA
7E3;NKO a NA;2HA;2WA;2YA;2NYA WOLOSO;2JONA JA;3CHA;3RA;1COMBggG SHORT HIGH TONE;3LOW TONE
7ED;NKO COMBggG SHORT RISgG TONE;2LONG DESCENDgG TONE;3HIGH TONE;3LOW TONE;3RISgG TONE
7F2;NKO COMBggG NASALIZAv MARK;2r s q;1HIGH TONE APOSTROPHE;1LOW TONE APOSTROPHE;1u OO DENNEN
7F7;NKO u GBAKURUNEN;1COMMA;1EXCLAMAv MARK;1LAJANYALAN
7FD;NKO DANTAYALAN;1DOROME n;1TAMAN n;SAMARITAN a ALAF;2BIT;2GAMAN;2DALAT;2IY;2BAA;2ZEN;2IT;2TIT
809;SAMARITAN a YUT;2KAAF;2LABAT;2MIM;2NUN;2SgGAAT;2g;2FI;2TSAADIY;2QUF;2RISH;2SHAN;2TAAF;1MARK g
817;SAMARITAN MARK g-ALAF;2OCCLUSION;2DAGESH;1MODIFIi a EPENTHETIC YUT;1MARK EPENTHETIC YUT
81C;SAMARITAN VOWEL n LONG E;3E;3OViLONG AA;3LONG AA;3AA;3OViLONG A;3LONG A;3A;1MODIFIi a SHORT A
825;SAMARITAN VOWEL n SHORT A;3LONG U;3U;1MODIFIi a I;1VOWEL n LONG I;3I;3O;3SUKUN;1MARK NEQUDAA
830;SAMARITAN PUNCTUAv NEQUDAA;2AFSAAQ;2ANGm;2BAU;2ATMAAU;2SHIYYAALAA;1ABBREVIAv MARK
837;SAMARITAN PUNCTUAv MELODIC QITSA;2ZIQAA;2QITSA;2ZAEF;2TURU;2ARKAANU;2SOF MASHFAAT;2ANNAAU
840;MlAIC a HALQA;2AB;2AG;2AD;2AH;2USHENNA;2AZ;2IT;2ATT;2AKSA;2AK;2AL;2AM;2AN;2AS;2g;2AP;2ASZ;2AQ
853;MlAIC a AR;2ASH;2AT;2DUSHENNA;2KAD;2Ag;1AFFRICAv MARK;1VOCALIZAv MARK;1GEMgAv MARK
85E;MlAIC PUNCTUAv
860;SYRIAC a MALAYALAM NGA;3JA;3NYA;3TTA;3NNA;3NNNA;3BHA;3RA;3LLA;3LLLA;3SSA
870;ARABIC a ALEF c ATTACHm FATHA;5TOP Rf FATHA;4Rf MIDDLE y;4p MIDDLE y;4ATTACHm KASRA
875;ARABIC a ALEF c ATTACHm BOTTOM Rf KASRA;5ROUND s q;5Rf ROUND s;5p ROUND s;5ROUND s x;4s q
87B;ARABIC a ALEF c ATTACHm TOP Rf FATHA l s q;4Rf MIDDLE y l s q;4ATTACHm BOTTOM Rf KASRA l s q
87E;ARABIC a ALEF c ATTACHm TOP Rf FATHA l p RgG;4Rf MIDDLE y l p RgG
880;ARABIC a ALEF c ATTACHm BOTTOM Rf KASRA l p RgG;5Rf HAMZA;5p HAMZA;1TATWEEL c OViSTRUCK HAMZA
884;ARABIC TATWEEL c OViSTRUCK WAW;3TWO sS x;1a THg YEH;1BASELgE ROUND s;1RAISm ROUND s
889;ARABIC a NOON c gViTm e V;2HAH c gViTm e V x;2TAH c s x;4THREE sS x
88D;ARABIC a KEHEH c TWO sS ViTICALLY x;1ViTICAL TAIL
890;ARABIC POUND MARK q;1PIASTRE MARK q
898;ARABIC e HIGH WORD AL-JUZ;2LOW WORD ISHMAAM;4IMAALA;4TASHEEL;1MADDA WAAJIB
89D;ARABIC SUPiSCRIPT ALEF MOKHASSAS;1DOUBLm MADDA;1HALF MADDA OVi MADDA;1a BEH c e V x;4HAMZA q
8A2;ARABIC a JEEM c TWO sS q;2TAH c TWO sS q;2FEH c s x l THREE sS q;2QAF c s x;2LAM c r BAR
8A7;ARABIC a MEEM c THREE sS q;2YEH c TWO sS x l HAMZA q;8s q;2REH c LOOP;2WAW c s cg;2ROHgGYA YEH
8AD;ARABIC a LOW ALEF;2DAL c THREE sS x;2SAD c THREE sS x;2GAF c gViTm y;2STRAf WAW
8B2;ARABIC a ZAg c gViTm V q;2Ag c THREE sS x;2KAF c s x;2QAF c s x l NO sS q;2BEH c e MEEM q
8B7;ARABIC a PEH c e MEEM q;2TEH c e TEH q;2REH c e NOON q;2YEH c TWO sS x l e NOON q;2AFRICAN FEH
8BC;ARABIC a AFRICAN QAF;3NOON;2PEH c e V;2TEH c e V;2TTEH c e V;2TCHEH c e V;2KEHEH c e V
8C3;ARABIC a GHAg c THREE sS q;2AFRICAN QAF c THREE sS q;2JEEM c THREE sS q;6x
8C7;ARABIC a LAM c e ARABIC a TAH q;2GRAF;1e FARSI YEH;2HIGH FARSI YEH;3YEH BARREE c TWO sS x
8CC;ARABIC e HIGH WORD SAH;3ZAH;1LARGE ROUND s q;4x;1SUKUN x;1LARGE CIRCLE x
8D2;ARABIC LARGE ROUND s gSIDE CIRCLE x;1e LOW WAW;2HIGH WORD AR-RUB;3SAD;3Ag;3QAF;3NOON c KASRA
8D9;ARABIC e LOW NOON c KASRA;2HIGH WORD ATH-THALATHA;4AS-SAJDA;4AN-NISF;4SAKTA;4QIF;4WAQFA
8E0;ARABIC e HIGH FOOTNOTE MARKi;3n SAFHA;1DISPUTm END OF AYAH;1TURNm DAMMA x;1CURLY FATHA;2DAMMA
8E6;ARABIC CURLY KASRA;2FATHATAN;2DAMMATAN;2KASRATAN;1TONE ONE s q;2TWO sS q;2LOOP q;2ONE s x
8EE;ARABIC TONE TWO sS x;2LOOP x;1OPEN FATHATAN;2DAMMATAN;2KASRATAN;1e HIGH WAW;1FATHA c RgG;3s q
8F6;ARABIC KASRA c s x;1p hHEAD q;1Rf hHEAD q;1p hHEAD x;1Rf hHEAD x;1r Rf hHEAD q;5c s
8FD;ARABIC Rf hHEAD q c s;1DAMMA c s;1MARK SIDEWAYS NOON GHUNNA;DEVANAGARI n gViTm ClRABgDU
901;DEVANAGARI n ClRABgDU;2ANUSVARA;2VISARGA;1a SHORT A;2A;2AA;2I;2II;2U;2UU;2VOCALIC R;3L;2ClRA E
90E;DEVANAGARI a SHORT E;2E;2AI;2ClRA O;2SHORT O;2O;2AU;2KA;2KHA;2GA;2GHA;2NGA;2CA;2CHA;2JA;2JHA
91E;DEVANAGARI a NYA;2TTA;2TTHA;2DDA;2DDHA;2NNA;2TA;2THA;2DA;2DHA;2NA;2NNNA;2PA;2PHA;2BA;2BHA;2MA
92F;DEVANAGARI a YA;2RA;2RRA;2LA;2LLA;2LLLA;2VA;2SHA;2SSA;2SA;2HA;1VOWEL n OE;3OOE;1n NUKTA
93D;DEVANAGARI n AVAGRAHA;1VOWEL n AA;3I;3II;3U;3UU;3VOCALIC R;4RR;3ClRA E;3SHORT E;3E;3AI;3ClRA O
94A;DEVANAGARI VOWEL n SHORT O;3O;3AU;1n VIRAMA;1VOWEL n PRISHTHAMATRA E;3AW;1OM;1STRESS n UDATTA
952;DEVANAGARI STRESS n ANUDATTA;1GRAVE ACCENT;1ACUTE ACCENT;1VOWEL n ClRA LONG E;3UE;3UUE;1a QA
959;DEVANAGARI a KHHA;2GHHA;2ZA;2DDDHA;2RHA;2FA;2YYA;2VOCALIC RR;3LL;1VOWEL n VOCALIC L;4LL;1DlA
965;DEVANAGARI r DlA;1DIGIT ZiO;2ONE;2TWO;2THREE;2FOUR;2FIVE;2SIX;2SEVEN;2Ef;2NgE;1ABBREVIAv n
971;DEVANAGARI n HIGH SPACgG s;1a ClRA A;2OE;2OOE;2AW;2UE;2UUE;2MARWARI DDA;2ZHA;2HEAVY YA;2GGA
97C;DEVANAGARI a JJA;2GLOTTAL STOP;2DDDA;2BBA;BENGALI ANJI;1n ClRABgDU;2ANUSVARA;2VISARGA
985;BENGALI a A;2AA;2I;2II;2U;2UU;2VOCALIC R;3L
98F;BENGALI a E;2AI
993;BENGALI a O;2AU;2KA;2KHA;2GA;2GHA;2NGA;2CA;2CHA;2JA;2JHA;2NYA;2TTA;2TTHA;2DDA;2DDHA;2NNA;2TA
9A5;BENGALI a THA;2DA;2DHA;2NA
9AA;BENGALI a PA;2PHA;2BA;2BHA;2MA;2YA;2RA
9B2;BENGALI a LA
9B6;BENGALI a SHA;2SSA;2SA;2HA
9BC;BENGALI n NUKTA;2AVAGRAHA;1VOWEL n AA;3I;3II;3U;3UU;3VOCALIC R;4RR
9C7;BENGALI VOWEL n E;3AI
9CB;BENGALI VOWEL n O;3AU;1n VIRAMA;1a KHlA TA
9D7;BENGALI AU LENGTH MARK
9DC;BENGALI a RRA;2RHA
9DF;BENGALI a YYA;2VOCALIC RR;3LL;1VOWEL n VOCALIC L;4LL
9E6;BENGALI DIGIT ZiO;2ONE;2TWO;2THREE;2FOUR;2FIVE;2SIX;2SEVEN;2Ef;2NgE;1a RA c MIDDLE DIAGONAL
9F1;BENGALI a RA c LOWi DIAGONAL;1RUPEE MARK;2n;1CURRENCY NUMiATOR ONE;3TWO;3THREE;3FOUR
9F8;BENGALI CURRENCY NUMiATOR ONE LESS THAN THE DENOMgATOR;2DENOMgATOR SIXTEEN;1ISSHAR;1GlA MARK
9FC;BENGALI a VmIC ANUSVARA;1ABBREVIAv n;1SlHI MARK
A01;GURMUKHI n ADAK BgDI;2BgDI;2VISARGA
A05;GURMUKHI a A;2AA;2I;2II;2U;2UU
A0F;GURMUKHI a EE;2AI
A13;GURMUKHI a OO;2AU;2KA;2KHA;2GA;2GHA;2NGA;2CA;2CHA;2JA;2JHA;2NYA;2TTA;2TTHA;2DDA;2DDHA;2NNA;2TA
A25;GURMUKHI a THA;2DA;2DHA;2NA
A2A;GURMUKHI a PA;2PHA;2BA;2BHA;2MA;2YA;2RA
A32;GURMUKHI a LA;2LLA
A35;GURMUKHI a VA;2SHA
A38;GURMUKHI a SA;2HA
A3C;GURMUKHI n NUKTA
A3E;GURMUKHI VOWEL n AA;3I;3II;3U;3UU
A47;GURMUKHI VOWEL n EE;3AI
A4B;GURMUKHI VOWEL n OO;3AU;1n VIRAMA
A51;GURMUKHI n UDAAT
A59;GURMUKHI a KHHA;2GHHA;2ZA;2RRA
A5E;GURMUKHI a FA
A66;GURMUKHI DIGIT ZiO;2ONE;2TWO;2THREE;2FOUR;2FIVE;2SIX;2SEVEN;2Ef;2NgE;1TIPPI;1ADDAK;1IRI;1URA
A74;GURMUKHI EK ONKAR;1n YAKASH;1ABBREVIAv n
A81;GUJARATI n ClRABgDU;2ANUSVARA;2VISARGA
A85;GUJARATI a A;2AA;2I;2II;2U;2UU;2VOCALIC R;3L;1VOWEL ClRA E
A8F;GUJARATI a E;2AI;1VOWEL ClRA O
A93;GUJARATI a O;2AU;2KA;2KHA;2GA;2GHA;2NGA;2CA;2CHA;2JA;2JHA;2NYA;2TTA;2TTHA;2DDA;2DDHA;2NNA;2TA
AA5;GUJARATI a THA;2DA;2DHA;2NA
AAA;GUJARATI a PA;2PHA;2BA;2BHA;2MA;2YA;2RA
AB2;GUJARATI a LA;2LLA
AB5;GUJARATI a VA;2SHA;2SSA;2SA;2HA
ABC;GUJARATI n NUKTA;2AVAGRAHA;1VOWEL n AA;3I;3II;3U;3UU;3VOCALIC R;4RR;3ClRA E
AC7;GUJARATI VOWEL n E;3AI;3ClRA O
ACB;GUJARATI VOWEL n O;3AU;1n VIRAMA
AD0;GUJARATI OM
AE0;GUJARATI a VOCALIC RR;3LL;1VOWEL n VOCALIC L;4LL
AE6;GUJARATI DIGIT ZiO;2ONE;2TWO;2THREE;2FOUR;2FIVE;2SIX;2SEVEN;2Ef;2NgE;1ABBREVIAv n;1RUPEE n
AF9;GUJARATI a ZHA;1n SUKUN;2SHADDA;2MADDAH;2THREE-s NUKTA q;2CIRCLE NUKTA q;2TWO-CIRCLE NUKTA q
B01;ORIYA n ClRABgDU;2ANUSVARA;2VISARGA
B05;ORIYA a A;2AA;2I;2II;2U;2UU;2VOCALIC R;3L
B0F;ORIYA a E;2AI
B13;ORIYA a O;2AU;2KA;2KHA;2GA;2GHA;2NGA;2CA;2CHA;2JA;2JHA;2NYA;2TTA;2TTHA;2DDA;2DDHA;2NNA;2TA
B25;ORIYA a THA;2DA;2DHA;2NA
B2A;ORIYA a PA;2PHA;2BA;2BHA;2MA;2YA;2RA
B32;ORIYA a LA;2LLA
B35;ORIYA a VA;2SHA;2SSA;2SA;2HA
B3C;ORIYA n NUKTA;2AVAGRAHA;1VOWEL n AA;3I;3II;3U;3UU;3VOCALIC R;4RR
B47;ORIYA VOWEL n E;3AI
B4B;ORIYA VOWEL n O;3AU;1n VIRAMA
B55;ORIYA n OViLgE;1AI LENGTH MARK;1AU LENGTH MARK
B5C;ORIYA a RRA;2RHA
B5F;ORIYA a YYA;2VOCALIC RR;3LL;1VOWEL n VOCALIC L;4LL
B66;ORIYA DIGIT ZiO;2ONE;2TWO;2THREE;2FOUR;2FIVE;2SIX;2SEVEN;2Ef;2NgE;1ISSHAR;1a WA
B72;ORIYA FRACv ONE QUARTi;3HALF;2THREE QUARTiS;2ONE SIXTEENTH;3EfH;2THREE SIXTEENTHS
B82;TAMIL n ANUSVARA;2VISARGA
B85;TAMIL a A;2AA;2I;2II;2U;2UU
B8E;TAMIL a E;2EE;2AI
B92;TAMIL a O;2OO;2AU;2KA
B99;TAMIL a NGA;2CA
B9C;TAMIL a JA
B9E;TAMIL a NYA;2TTA
BA3;TAMIL a NNA;2TA
BA8;TAMIL a NA;2NNNA;2PA
BAE;TAMIL a MA;2YA;2RA;2RRA;2LA;2LLA;2LLLA;2VA;2SHA;2SSA;2SA;2HA
BBE;TAMIL VOWEL n AA;3I;3II;3U;3UU
BC6;TAMIL VOWEL n E;3EE;3AI
BCA;TAMIL VOWEL n O;3OO;3AU;1n VIRAMA
BD0;TAMIL OM
BD7;TAMIL AU LENGTH MARK
BE6;TAMIL DIGIT ZiO;2ONE;2TWO;2THREE;2FOUR;2FIVE;2SIX;2SEVEN;2Ef;2NgE;1NUMBi TEN;2ONE HUNDRm
BF2;TAMIL NUMBi ONE THOUSl;1DAY n;1MONTH n;1YEAR n;1DEBIT n;1CRmIT n;1AS q n;1RUPEE n;1NUMBi n
C00;TELUGU n COMBggG ClRABgDU q;2ClRABgDU;2ANUSVARA;2VISARGA;2COMBggG ANUSVARA q;1a A;2AA;2I;2II
C09;TELUGU a U;2UU;2VOCALIC R;3L
C0E;TELUGU a E;2EE;2AI
C12;TELUGU a O;2OO;2AU;2KA;2KHA;2GA;2GHA;2NGA;2CA;2CHA;2JA;2JHA;2NYA;2TTA;2TTHA;2DDA;2DDHA;2NNA
C24;TELUGU a TA;2THA;2DA;2DHA;2NA
C2A;TELUGU a PA;2PHA;2BA;2BHA;2MA;2YA;2RA;2RRA;2LA;2LLA;2LLLA;2VA;2SHA;2SSA;2SA;2HA
C3C;TELUGU n NUKTA;2AVAGRAHA;1VOWEL n AA;3I;3II;3U;3UU;3VOCALIC R;4RR
C46;TELUGU VOWEL n E;3EE;3AI
C4A;TELUGU VOWEL n O;3OO;3AU;1n VIRAMA
C55;TELUGU LENGTH MARK;1AI LENGTH MARK
C58;TELUGU a TSA;2DZA;2RRRA
C5D;TELUGU a NAKAARA POLLU
C60;TELUGU a VOCALIC RR;3LL;1VOWEL n VOCALIC L;4LL
C66;TELUGU DIGIT ZiO;2ONE;2TWO;2THREE;2FOUR;2FIVE;2SIX;2SEVEN;2Ef;2NgE
C77;TELUGU n SIDDHAM;1FRACv DIGIT ZiO FOR ODD POWiS OF FOUR;3ONE FOR ODD POWiS OF FOUR
C7A;TELUGU FRACv DIGIT TWO FOR ODD POWiS OF FOUR;3THREE FOR ODD POWiS OF FOUR
C7C;TELUGU FRACv DIGIT ONE FOR EVEN POWiS OF FOUR;3TWO FOR EVEN POWiS OF FOUR
C7E;TELUGU FRACv DIGIT THREE FOR EVEN POWiS OF FOUR;1n TUUMU;KANNADA n SPACgG ClRABgDU;2ClRABgDU
C82;KANNADA n ANUSVARA;2VISARGA;2SIDDHAM;1a A;2AA;2I;2II;2U;2UU;2VOCALIC R;3L
C8E;KANNADA a E;2EE;2AI
C92;KANNADA a O;2OO;2AU;2KA;2KHA;2GA;2GHA;2NGA;2CA;2CHA;2JA;2JHA;2NYA;2TTA;2TTHA;2DDA;2DDHA;2NNA
CA4;KANNADA a TA;2THA;2DA;2DHA;2NA
CAA;KANNADA a PA;2PHA;2BA;2BHA;2MA;2YA;2RA;2RRA;2LA;2LLA
CB5;KANNADA a VA;2SHA;2SSA;2SA;2HA
CBC;KANNADA n NUKTA;2AVAGRAHA;1VOWEL n AA;3I;3II;3U;3UU;3VOCALIC R;4RR
CC6;KANNADA VOWEL n E;3EE;3AI
CCA;KANNADA VOWEL n O;3OO;3AU;1n VIRAMA
CD5;KANNADA LENGTH MARK;1AI LENGTH MARK
CDD;KANNADA a NAKAARA POLLU;2FA
CE0;KANNADA a VOCALIC RR;3LL;1VOWEL n VOCALIC L;4LL
CE6;KANNADA DIGIT ZiO;2ONE;2TWO;2THREE;2FOUR;2FIVE;2SIX;2SEVEN;2Ef;2NgE
CF1;KANNADA n JIHVAMULIYA;2UPADHMANIYA
D00;MALAYALAM n COMBggG ANUSVARA q;2ClRABgDU;2ANUSVARA;2VISARGA;1a VmIC ANUSVARA;2A;2AA;2I;2II;2U
D0A;MALAYALAM a UU;2VOCALIC R;3L
D0E;MALAYALAM a E;2EE;2AI
D12;MALAYALAM a O;2OO;2AU;2KA;2KHA;2GA;2GHA;2NGA;2CA;2CHA;2JA;2JHA;2NYA;2TTA;2TTHA;2DDA;2DDHA;2NNA
D24;MALAYALAM a TA;2THA;2DA;2DHA;2NA;2NNNA;2PA;2PHA;2BA;2BHA;2MA;2YA;2RA;2RRA;2LA;2LLA;2LLLA;2VA
D36;MALAYALAM a SHA;2SSA;2SA;2HA;2TTTA;1n ViTICAL BAR VIRAMA;2CIRCULAR VIRAMA;2AVAGRAHA
D3E;MALAYALAM VOWEL n AA;3I;3II;3U;3UU;3VOCALIC R;4RR
D46;MALAYALAM VOWEL n E;3EE;3AI
D4A;MALAYALAM VOWEL n O;3OO;3AU;1n VIRAMA;1a s REPH;1n PARA
D54;MALAYALAM a CHILLU M;3Y;3LLL;1AU LENGTH MARK;1FRACv ONE ONE-HUNDRm-l-SIXTIETH;3FORTIETH
D5A;MALAYALAM FRACv THREE EfIETHS;2ONE TWENTIETH;3TENTH;2THREE TWENTIETHS;2ONE FIFTH;1a ARCHAIC II
D60;MALAYALAM a VOCALIC RR;3LL;1VOWEL n VOCALIC L;4LL
D66;MALAYALAM DIGIT ZiO;2ONE;2TWO;2THREE;2FOUR;2FIVE;2SIX;2SEVEN;2Ef;2NgE;1NUMBi TEN;2ONE HUNDRm
D72;MALAYALAM NUMBi ONE THOUSl;1FRACv ONE QUARTi;3HALF;2THREE QUARTiS;2ONE SIXTEENTH;3EfH
D78;MALAYALAM FRACv THREE SIXTEENTHS;1DATE MARK;1a CHILLU NN;3N;3RR;3L;3LL;3K
D81;SgHALA n ClRABgDU;2ANUSVARAYA;2VISARGAYA
D85;SgHALA a AYANNA;2AAYANNA;2AEYANNA;2AEEYANNA;2IYANNA;2IIYANNA;2UYANNA;2UUYANNA;2IRUYANNA
D8E;SgHALA a IRUUYANNA;2ILUYANNA;2ILUUYANNA;2EYANNA;2EEYANNA;2AIYANNA;2OYANNA;2OOYANNA;2AUYANNA
D9A;SgHALA a ALPAPRAANA KAYANNA;2MAHAAPRAANA KAYANNA;2ALPAPRAANA GAYANNA;2MAHAAPRAANA GAYANNA
D9E;SgHALA a KANTAJA NAASIKYAYA;2SANYAKA GAYANNA;2ALPAPRAANA CAYANNA;2MAHAAPRAANA CAYANNA
DA2;SgHALA a ALPAPRAANA JAYANNA;2MAHAAPRAANA JAYANNA;2TAALUJA NAASIKYAYA;3SANYOOGA NAAKSIKYAYA
DA6;SgHALA a SANYAKA JAYANNA;2ALPAPRAANA TTAYANNA;2MAHAAPRAANA TTAYANNA;2ALPAPRAANA DDAYANNA
DAA;SgHALA a MAHAAPRAANA DDAYANNA;2MUURDHAJA NAYANNA;2SANYAKA DDAYANNA;2ALPAPRAANA TAYANNA
DAE;SgHALA a MAHAAPRAANA TAYANNA;2ALPAPRAANA DAYANNA;2MAHAAPRAANA DAYANNA;2DANTAJA NAYANNA
DB3;SgHALA a SANYAKA DAYANNA;2ALPAPRAANA PAYANNA;2MAHAAPRAANA PAYANNA;2ALPAPRAANA BAYANNA
DB7;SgHALA a MAHAAPRAANA BAYANNA;2MAYANNA;2AMBA BAYANNA;2YAYANNA;2RAYANNA
DBD;SgHALA a DANTAJA LAYANNA
DC0;SgHALA a VAYANNA;2TAALUJA SAYANNA;2MUURDHAJA SAYANNA;2DANTAJA SAYANNA;2HAYANNA
DC5;SgHALA a MUURDHAJA LAYANNA;2FAYANNA
DCA;SgHALA n AL-LAKUNA
DCF;SgHALA VOWEL n AELA-PILLA;3KETTI AmA-PILLA;3DIGA AmA-PILLA;3KETTI IS-PILLA;3DIGA IS-PILLA
DD4;SgHALA VOWEL n KETTI PAA-PILLA
DD6;SgHALA VOWEL n DIGA PAA-PILLA
DD8;SgHALA VOWEL n GAETTA-PILLA;3KOMBUVA;3DIGA KOMBUVA;3KOMBU DEKA;3KOMBUVA HAA AELA-PILLA
DDD;SgHALA VOWEL n KOMBUVA HAA DIGA AELA-PILLA;5GAYANUKITTA;3GAYANUKITTA
DE6;SgHALA LITH DIGIT ZiO;3ONE;3TWO;3THREE;3FOUR;3FIVE;3SIX;3SEVEN;3Ef;3NgE
DF2;SgHALA VOWEL n DIGA GAETTA-PILLA;4GAYANUKITTA;1PUNCTUAv KUNDDALIYA
E01;THAI CHARACTi KO KAI;2KHO KHAI;3KHUAT;3KHWAI;3KHON;3RAKHANG;2NGO NGU;2CHO CHAN;3CHgG;3CHANG
E0B;THAI CHARACTi SO SO;2CHO CHOE;2YO YgG;2DO CHADA;2TO PATAK;2THO THAN;3NANGMONTHO;3PHUTHAO
E13;THAI CHARACTi NO NEN;2DO DEK;2TO TAO;2THO THUNG;3THAHAN;3THONG;2NO NU;2BO BAIMAI;2PO PLA
E1C;THAI CHARACTi PHO PHUNG;2FO FA;2PHO PHAN;2FO FAN;2PHO SAMPHAO;2MO MA;2YO YAK;2RO RUA;2RU
E25;THAI CHARACTi LO LgG;2LU;2WO WAEN;2SO SALA;3RUSI;3SUA;2HO HIP;2LO CHULA;2O ANG;2HO NOKHUK
E2F;THAI CHARACTi PAIYANNOI;2SARA A;2MAI HAN-AKAT;2SARA AA;3AM;3I;3II;3UE;3UEE;3U;3UU;2PHgTHU
E3F;THAI CURRENCY u BAHT;1CHARACTi SARA E;3AE;3O;3AI MAIMUAN;4MAIMALAI;2LAKKHANGYAO;2MAIYAMOK
E47;THAI CHARACTi MAITAIKHU;2MAI EK;3THO;3TRI;3CHATTAWA;2THANTHAKHAT;2NIKHAHIT;2YAMAKKAN;2FONGMAN
E50;THAI DIGIT ZiO;2ONE;2TWO;2THREE;2FOUR;2FIVE;2SIX;2SEVEN;2Ef;2NgE;1CHARACTi ANGKHANKHU;2KHOMUT
E81;LAO a KO;2KHO SUNG
E84;LAO a KHO TAM
E86;LAO a PALI GHA;2NGO;2CO;2PALI CHA;2SO TAM
E8C;LAO a PALI JHA;2NYO;2PALI NYA;3TTA;3TTHA;3DDA;3DDHA;3NNA;2DO;2TO;2THO SUNG;3TAM;2PALI DHA;2NO
E9A;LAO a BO;2PO;2PHO SUNG;2FO TAM;2PHO TAM;2FO SUNG;2PALI BHA;2MO;2YO;2LO LgG
EA5;LAO a LO LOOT
EA7;LAO a WO;2SANSKRIT SHA;3SSA;2SO SUNG;2HO SUNG;2PALI LLA;2O;2HO TAM;1ELLIPSIS;1VOWEL n A
EB1;LAO VOWEL n MAI KAN;3AA;3AM;3I;3II;3Y;3YY;3U;3UU;1n PALI VIRAMA;1VOWEL n MAI KON
EBC;LAO SEMIVOWEL n LO;3NYO
EC0;LAO VOWEL n E;3EI;3O;3AY;3AI
EC6;LAO KO LA
EC8;LAO TONE MAI EK;3THO;3TI;3CATAWA;1CANCELLAv MARK;1NIGGAHITA
ED0;LAO DIGIT ZiO;2ONE;2TWO;2THREE;2FOUR;2FIVE;2SIX;2SEVEN;2Ef;2NgE
EDC;LAO HO NO;2MO;1a KHMU GO;3NYO
F00;TIBETAN SYLLABLE OM;1MARK GTi YIG MGO TRUNCATm A;5-UM RNAM BCAD MA;6GTi TSHEG MA
F04;TIBETAN MARK gITIAL YIG MGO MDUN MA;2CLOSgG YIG MGO SGAB MA;2CARET YIG MGO PHUR SHAD MA
F07;TIBETAN MARK YIG MGO TSHEG SHAD MA;2SBRUL SHAD;2BSKUR YIG MGO;2BKA- SHOG YIG MGO
F0B;TIBETAN MARK gTiSYLLABIC TSHEG;2DELIMITi TSHEG BSTAR;2SHAD;2NYIS SHAD;2TSHEG SHAD
F10;TIBETAN MARK NYIS TSHEG SHAD;2Rg CHEN SPUNGS SHAD;2RGYA GRAM SHAD
F13;TIBETAN MARK CARET -DZUD RTAGS ME LONG CAN;2GTi TSHEG;1LOGOTYPE n CHAD RTAGS;3LHAG RTAGS
F17;TIBETAN ASTROLOGICAL n SGRA GCAN -CHAR RTAGS;3-KHYUD PA;3SDONG TSHUGS;1n RDEL DKAR GCIG;4GNYIS
F1C;TIBETAN n RDEL DKAR GSUM;3NAG GCIG;4GNYIS;3DKAR RDEL NAG;1DIGIT ZiO;2ONE;2TWO;2THREE;2FOUR
F25;TIBETAN DIGIT FIVE;2SIX;2SEVEN;2Ef;2NgE;2HALF ONE;3TWO;3THREE;3FOUR;3FIVE;3SIX;3SEVEN;3Ef;3NgE
F33;TIBETAN DIGIT HALF ZiO;1MARK BSDUS RTAGS;2NGAS BZUNG NYI ZLA;2CARET -DZUD RTAGS BZHI MIG CAN
F37;TIBETAN MARK NGAS BZUNG SGOR RTAGS;2CHE MGO;2TSA -PHRU;2GUG RTAGS GYON;4GYAS;2ANG KHANG GYON
F3D;TIBETAN MARK ANG KHANG GYAS;1n YAR TSHES;2MAR TSHES;1a KA;2KHA;2GA;2GHA;2NGA;2CA;2CHA;2JA
F49;TIBETAN a NYA;2TTA;2TTHA;2DDA;2DDHA;2NNA;2TA;2THA;2DA;2DHA;2NA;2PA;2PHA;2BA;2BHA;2MA;2TSA
F5A;TIBETAN a TSHA;2DZA;2DZHA;2WA;2ZHA;2ZA;2-A;2YA;2RA;2LA;2SHA;2SSA;2SA;2HA;2A;2KSSA;2FIXm-j RA
F6B;TIBETAN a KKA;2RRA
F71;TIBETAN VOWEL n AA;3I;3II;3U;3UU;3VOCALIC R;4RR;4L;4LL;3E;3EE;3O;3OO;1n RJES SU NGA RO
F7F;TIBETAN n RNAM BCAD;1VOWEL n REViSm I;4II;1n NYI ZLA NAA DA;2SNA LDAN;1MARK HALANTA;2PALUTA
F86;TIBETAN n LCI RTAGS;2YANG RTAGS;2LCE TSA CAN;2MCHU CAN;2GRU CAN RGYgGS;3Mm RGYgGS
F8C;TIBETAN n gViTm MCHU CAN;1SUBJOgm n LCE TSA CAN;3MCHU CAN;3gViTm MCHU CAN;2a KA;3KHA;3GA;3GHA
F94;TIBETAN SUBJOgm a NGA;3CA;3CHA;3JA
F99;TIBETAN SUBJOgm a NYA;3TTA;3TTHA;3DDA;3DDHA;3NNA;3TA;3THA;3DA;3DHA;3NA;3PA;3PHA;3BA;3BHA;3MA
FA9;TIBETAN SUBJOgm a TSA;3TSHA;3DZA;3DZHA;3WA;3ZHA;3ZA;3-A;3YA;3RA;3LA;3SHA;3SSA;3SA;3HA;3A;3KSSA
FBA;TIBETAN SUBJOgm a FIXm-j WA;4YA;4RA
FBE;TIBETAN KU RU KHA;4BZHI MIG CAN;1CANTILLAv n HEAVY BEAT;3Lf BEAT;3CANG TE-U;3SBUB -CHAL
FC4;TIBETAN u DRIL BU;2RDO RJE;2PADMA GDAN;2RDO RJE RGYA GRAM;2PHUR PA;2NOR BU;4NYIS -KHYIL
FCB;TIBETAN u NOR BU GSUM -KHYIL;4BZHI -KHYIL
FCE;TIBETAN n RDEL NAG RDEL DKAR;4GSUM;1MARK BSKA- SHOG GI MGO RGYAN;2MNYAM YIG GI MGO RGYAN
FD2;TIBETAN MARK NYIS TSHEG;2gITIAL BRDA RNYgG YIG MGO MDUN MA;2CLOSgG BRDA RNYgG YIG MGO SGAB MA
FD5;Rf-FACgG SVASTI n;p-FACgG SVASTI n;Rf-FACgG SVASTI n c sS;p-FACgG SVASTI n c sS
FD9;TIBETAN MARK LEADgG MCHAN RTAGS;2TRAILgG MCHAN RTAGS
1000;MYANMAR a KA;2KHA;2GA;2GHA;2NGA;2CA;2CHA;2JA;2JHA;2NYA;2NNYA;2TTA;2TTHA;2DDA;2DDHA;2NNA;2TA
1011;MYANMAR a THA;2DA;2DHA;2NA;2PA;2PHA;2BA;2BHA;2MA;2YA;2RA;2LA;2WA;2SA;2HA;2LLA;2A;2SHAN A;2I
1024;MYANMAR a II;2U;2UU;2E;2MON E;2O;2AU;1VOWEL n TALL AA;3AA;3I;3II;3U;3UU;3E;3AI;3MON II;4O
1035;MYANMAR VOWEL n E q;1n ANUSVARA;2s x;2VISARGA;2VIRAMA;2ASAT;1CONSONANT n MmIAL YA;4RA;4WA;4HA
103F;MYANMAR a GREAT SA;1DIGIT ZiO;2ONE;2TWO;2THREE;2FOUR;2FIVE;2SIX;2SEVEN;2Ef;2NgE
104A;MYANMAR n LITTLE SECv;2SECv;1u LOCATIVE;2COMPLETm;2AFOREMENvm;2GENITIVE;1a SHA;2SSA
1052;MYANMAR a VOCALIC R;3RR;3L;3LL;1VOWEL n VOCALIC R;4RR;4L;4LL;1a MON NGA;3JHA;3BBA;3BBE
105E;MYANMAR CONSONANT n MON MmIAL NA;5MA;5LA;1a SGAW KAREN SHA;1VOWEL n SGAW KAREN EU
1063;MYANMAR TONE MARK SGAW KAREN HATHI;5KE PHO;1a WESTiN PWO KAREN THA;5PWA
1067;MYANMAR VOWEL n WESTiN PWO KAREN EU;6UE;1n WESTiN PWO KAREN TONE-1;5TONE-2;5TONE-3;5TONE-4
106D;MYANMAR n WESTiN PWO KAREN TONE-5;1a EASTiN PWO KAREN NNA;5YWA;5GHWA;1VOWEL n GEBA KAREN I
1072;MYANMAR VOWEL n KAYAH OE;4U;4EE;1a SHAN KA;3KHA;3GA;3CA;3ZA;3NYA;3DA;3NA;3PHA;3FA;3BA;3THA
1081;MYANMAR a SHAN HA;1CONSONANT n SHAN MmIAL WA;1VOWEL n SHAN AA;4E;5q;4FgAL Y;1n SHAN TONE-2
1088;MYANMAR n SHAN TONE-3;3TONE-5;3TONE-6;3COUNCIL TONE-2;4TONE-3;4EMPHATIC TONE
108E;MYANMAR a RUMAI PALAUNG FA;1n RUMAI PALAUNG TONE-5;1SHAN DIGIT ZiO;3ONE;3TWO;3THREE;3FOUR
1095;MYANMAR SHAN DIGIT FIVE;3SIX;3SEVEN;3Ef;3NgE;1n KHAMTI TONE-1;3TONE-3;1VOWEL n AITON A;4AI
109E;MYANMAR u SHAN ONE;3EXCLAMAv;GEORGIAN d a AN;3BAN;3GAN;3DON;3EN;3Vg;3ZEN;3TAN;3g;3KAN;3LAS
10AB;GEORGIAN d a MAN;3NAR;3ON;3PAR;3ZHAR;3RAE;3SAN;3TAR;3UN;3PHAR;3KHAR;3GHAN;3QAR;3SHg;3CHg;3CAN
10BB;GEORGIAN d a JIL;3CIL;3CHAR;3XAN;3JHAN;3HAE;3HE;3HIE;3WE;3HAR;3HOE
10C7;GEORGIAN d a YN
10CD;GEORGIAN d a AEN
10D0;GEORGIAN a AN;2BAN;2GAN;2DON;2EN;2Vg;2ZEN;2TAN;2g;2KAN;2LAS;2MAN;2NAR;2ON;2PAR;2ZHAR;2RAE
10E1;GEORGIAN a SAN;2TAR;2UN;2PHAR;2KHAR;2GHAN;2QAR;2SHg;2CHg;2CAN;2JIL;2CIL;2CHAR;2XAN;2JHAN;2HAE
10F1;GEORGIAN a HE;2HIE;2WE;2HAR;2HOE;2FI;2YN;2ELIFI;2TURNm GAN;2Ag;1PARAGRAPH SEPARATOR
10FC;MODIFIi a GEORGIAN NAR;GEORGIAN a AEN;2HARD n;2LABIAL n;HANGUL CHOSEONG KIYEOK;2SSANGKIYEOK
1102;HANGUL CHOSEONG NIEUN;2TIKEUT;2SSANGTIKEUT;2RIEUL;2MIEUM;2PIEUP;2SSANGPIEUP;2SIOS;2SSANGSIOS
110B;HANGUL CHOSEONG IEUNG;2CIEUC;2SSANGCIEUC;2CHIEUCH;2KHIEUKH;2THIEUTH;2PHIEUPH;2HIEUH
1113;HANGUL CHOSEONG NIEUN-KIYEOK;2SSANGNIEUN;2NIEUN-TIKEUT;2NIEUN-PIEUP;2TIKEUT-KIYEOK
1118;HANGUL CHOSEONG RIEUL-NIEUN;2SSANGRIEUL;2RIEUL-HIEUH;2KAPYEOUNRIEUL;2MIEUM-PIEUP
111D;HANGUL CHOSEONG KAPYEOUNMIEUM;2PIEUP-KIYEOK;2PIEUP-NIEUN;2PIEUP-TIKEUT;2PIEUP-SIOS
1122;HANGUL CHOSEONG PIEUP-SIOS-KIYEOK;2PIEUP-SIOS-TIKEUT;2PIEUP-SIOS-PIEUP;2PIEUP-SSANGSIOS
1126;HANGUL CHOSEONG PIEUP-SIOS-CIEUC;2PIEUP-CIEUC;2PIEUP-CHIEUCH;2PIEUP-THIEUTH;2PIEUP-PHIEUPH
112B;HANGUL CHOSEONG KAPYEOUNPIEUP;2KAPYEOUNSSANGPIEUP;2SIOS-KIYEOK;2SIOS-NIEUN;2SIOS-TIKEUT
1130;HANGUL CHOSEONG SIOS-RIEUL;2SIOS-MIEUM;2SIOS-PIEUP;2SIOS-PIEUP-KIYEOK;2SIOS-SSANGSIOS
1135;HANGUL CHOSEONG SIOS-IEUNG;2SIOS-CIEUC;2SIOS-CHIEUCH;2SIOS-KHIEUKH;2SIOS-THIEUTH
113A;HANGUL CHOSEONG SIOS-PHIEUPH;2SIOS-HIEUH;2CHITUEUMSIOS;2CHITUEUMSSANGSIOS;2CEONGCHIEUMSIOS
113F;HANGUL CHOSEONG CEONGCHIEUMSSANGSIOS;2PANSIOS;2IEUNG-KIYEOK;2IEUNG-TIKEUT;2IEUNG-MIEUM
1144;HANGUL CHOSEONG IEUNG-PIEUP;2IEUNG-SIOS;2IEUNG-PANSIOS;2SSANGIEUNG;2IEUNG-CIEUC
1149;HANGUL CHOSEONG IEUNG-CHIEUCH;2IEUNG-THIEUTH;2IEUNG-PHIEUPH;2YESIEUNG;2CIEUC-IEUNG
114E;HANGUL CHOSEONG CHITUEUMCIEUC;2CHITUEUMSSANGCIEUC;2CEONGCHIEUMCIEUC;2CEONGCHIEUMSSANGCIEUC
1152;HANGUL CHOSEONG CHIEUCH-KHIEUKH;2CHIEUCH-HIEUH;2CHITUEUMCHIEUCH;2CEONGCHIEUMCHIEUCH
1156;HANGUL CHOSEONG PHIEUPH-PIEUP;2KAPYEOUNPHIEUPH;2SSANGHIEUH;2YEORgHIEUH;2KIYEOK-TIKEUT
115B;HANGUL CHOSEONG NIEUN-SIOS;2NIEUN-CIEUC;2NIEUN-HIEUH;2TIKEUT-RIEUL;2FILLi;1JUNGSEONG FILLi;2A
1162;HANGUL JUNGSEONG AE;2YA;2YAE;2EO;2E;2YEO;2YE;2O;2WA;2WAE;2OE;2YO;2U;2WEO;2WE;2WI;2YU;2EU;2YI
1175;HANGUL JUNGSEONG I;2A-O;2A-U;2YA-O;2YA-YO;2EO-O;2EO-U;2EO-EU;2YEO-O;2YEO-U;2O-EO;2O-E;2O-YE
1182;HANGUL JUNGSEONG O-O;2O-U;2YO-YA;2YO-YAE;2YO-YEO;2YO-O;2YO-I;2U-A;2U-AE;2U-EO-EU;2U-YE;2U-U
118E;HANGUL JUNGSEONG YU-A;2YU-EO;2YU-E;2YU-YEO;2YU-YE;2YU-U;2YU-I;2EU-U;2EU-EU;2YI-U;2I-A;2I-YA
119A;HANGUL JUNGSEONG I-O;2I-U;2I-EU;2I-ARAEA;2ARAEA;2ARAEA-EO;2ARAEA-U;2ARAEA-I;2SSANGARAEA;2A-EU
11A4;HANGUL JUNGSEONG YA-U;2YEO-YA;2O-YA;2O-YAE;1JONGSEONG KIYEOK;2SSANGKIYEOK;2KIYEOK-SIOS;2NIEUN
11AC;HANGUL JONGSEONG NIEUN-CIEUC;2NIEUN-HIEUH;2TIKEUT;2RIEUL;2RIEUL-KIYEOK;2RIEUL-MIEUM
11B2;HANGUL JONGSEONG RIEUL-PIEUP;2RIEUL-SIOS;2RIEUL-THIEUTH;2RIEUL-PHIEUPH;2RIEUL-HIEUH;2MIEUM
11B8;HANGUL JONGSEONG PIEUP;2PIEUP-SIOS;2SIOS;2SSANGSIOS;2IEUNG;2CIEUC;2CHIEUCH;2KHIEUKH;2THIEUTH
11C1;HANGUL JONGSEONG PHIEUPH;2HIEUH;2KIYEOK-RIEUL;2KIYEOK-SIOS-KIYEOK;2NIEUN-KIYEOK;2NIEUN-TIKEUT
11C7;HANGUL JONGSEONG NIEUN-SIOS;2NIEUN-PANSIOS;2NIEUN-THIEUTH;2TIKEUT-KIYEOK;2TIKEUT-RIEUL
11CC;HANGUL JONGSEONG RIEUL-KIYEOK-SIOS;2RIEUL-NIEUN;2RIEUL-TIKEUT;2RIEUL-TIKEUT-HIEUH;2SSANGRIEUL
11D1;HANGUL JONGSEONG RIEUL-MIEUM-KIYEOK;2RIEUL-MIEUM-SIOS;2RIEUL-PIEUP-SIOS;2RIEUL-PIEUP-HIEUH
11D5;HANGUL JONGSEONG RIEUL-KAPYEOUNPIEUP;2RIEUL-SSANGSIOS;2RIEUL-PANSIOS;2RIEUL-KHIEUKH
11D9;HANGUL JONGSEONG RIEUL-YEORgHIEUH;2MIEUM-KIYEOK;2MIEUM-RIEUL;2MIEUM-PIEUP;2MIEUM-SIOS
11DE;HANGUL JONGSEONG MIEUM-SSANGSIOS;2MIEUM-PANSIOS;2MIEUM-CHIEUCH;2MIEUM-HIEUH;2KAPYEOUNMIEUM
11E3;HANGUL JONGSEONG PIEUP-RIEUL;2PIEUP-PHIEUPH;2PIEUP-HIEUH;2KAPYEOUNPIEUP;2SIOS-KIYEOK
11E8;HANGUL JONGSEONG SIOS-TIKEUT;2SIOS-RIEUL;2SIOS-PIEUP;2PANSIOS;2IEUNG-KIYEOK
11ED;HANGUL JONGSEONG IEUNG-SSANGKIYEOK;2SSANGIEUNG;2IEUNG-KHIEUKH;2YESIEUNG;2YESIEUNG-SIOS
11F2;HANGUL JONGSEONG YESIEUNG-PANSIOS;2PHIEUPH-PIEUP;2KAPYEOUNPHIEUPH;2HIEUH-NIEUN;2HIEUH-RIEUL
11F7;HANGUL JONGSEONG HIEUH-MIEUM;2HIEUH-PIEUP;2YEORgHIEUH;2KIYEOK-NIEUN;2KIYEOK-PIEUP
11FC;HANGUL JONGSEONG KIYEOK-CHIEUCH;2KIYEOK-KHIEUKH;2KIYEOK-HIEUH;2SSANGNIEUN
1200;ETHIOPIC SYLLABLE HA;2HU;2HI;2HAA;2HEE;2HE;2HO;2HOA;2LA;2LU;2LI;2LAA;2LEE;2LE;2LO;2LWA;2HHA
1211;ETHIOPIC SYLLABLE HHU;2HHI;2HHAA;2HHEE;2HHE;2HHO;2HHWA;2MA;2MU;2MI;2MAA;2MEE;2ME;2MO;2MWA
1220;ETHIOPIC SYLLABLE SZA;2SZU;2SZI;2SZAA;2SZEE;2SZE;2SZO;2SZWA;2RA;2RU;2RI;2RAA;2REE;2RE;2RO
122F;ETHIOPIC SYLLABLE RWA;2SA;2SU;2SI;2SAA;2SEE;2SE;2SO;2SWA;2SHA;2SHU;2SHI;2SHAA;2SHEE;2SHE;2SHO
123F;ETHIOPIC SYLLABLE SHWA;2QA;2QU;2QI;2QAA;2QEE;2QE;2QO;2QOA;2QWA
124A;ETHIOPIC SYLLABLE QWI;2QWAA;2QWEE;2QWE
1250;ETHIOPIC SYLLABLE QHA;2QHU;2QHI;2QHAA;2QHEE;2QHE;2QHO
1258;ETHIOPIC SYLLABLE QHWA
125A;ETHIOPIC SYLLABLE QHWI;2QHWAA;2QHWEE;2QHWE
1260;ETHIOPIC SYLLABLE BA;2BU;2BI;2BAA;2BEE;2BE;2BO;2BWA;2VA;2VU;2VI;2VAA;2VEE;2VE;2VO;2VWA;2TA
1271;ETHIOPIC SYLLABLE TU;2TI;2TAA;2TEE;2TE;2TO;2TWA;2CA;2CU;2CI;2CAA;2CEE;2CE;2CO;2CWA;2XA;2XU
1282;ETHIOPIC SYLLABLE XI;2XAA;2XEE;2XE;2XO;2XOA;2XWA
128A;ETHIOPIC SYLLABLE XWI;2XWAA;2XWEE;2XWE
1290;ETHIOPIC SYLLABLE NA;2NU;2NI;2NAA;2NEE;2NE;2NO;2NWA;2NYA;2NYU;2NYI;2NYAA;2NYEE;2NYE;2NYO
129F;ETHIOPIC SYLLABLE NYWA;2GLOTTAL A;3U;3I;3AA;3EE;3E;3O;3WA;2KA;2KU;2KI;2KAA;2KEE;2KE;2KO;2KOA
12B0;ETHIOPIC SYLLABLE KWA
12B2;ETHIOPIC SYLLABLE KWI;2KWAA;2KWEE;2KWE
12B8;ETHIOPIC SYLLABLE KXA;2KXU;2KXI;2KXAA;2KXEE;2KXE;2KXO
12C0;ETHIOPIC SYLLABLE KXWA
12C2;ETHIOPIC SYLLABLE KXWI;2KXWAA;2KXWEE;2KXWE
12C8;ETHIOPIC SYLLABLE WA;2WU;2WI;2WAA;2WEE;2WE;2WO;2WOA;2PHARYNGEAL A;3U;3I;3AA;3EE;3E;3O
12D8;ETHIOPIC SYLLABLE ZA;2ZU;2ZI;2ZAA;2ZEE;2ZE;2ZO;2ZWA;2ZHA;2ZHU;2ZHI;2ZHAA;2ZHEE;2ZHE;2ZHO
12E7;ETHIOPIC SYLLABLE ZHWA;2YA;2YU;2YI;2YAA;2YEE;2YE;2YO;2YOA;2DA;2DU;2DI;2DAA;2DEE;2DE;2DO;2DWA
12F8;ETHIOPIC SYLLABLE DDA;2DDU;2DDI;2DDAA;2DDEE;2DDE;2DDO;2DDWA;2JA;2JU;2JI;2JAA;2JEE;2JE;2JO
1307;ETHIOPIC SYLLABLE JWA;2GA;2GU;2GI;2GAA;2GEE;2GE;2GO;2GOA;2GWA
1312;ETHIOPIC SYLLABLE GWI;2GWAA;2GWEE;2GWE
1318;ETHIOPIC SYLLABLE GGA;2GGU;2GGI;2GGAA;2GGEE;2GGE;2GGO;2GGWAA;2THA;2THU;2THI;2THAA;2THEE;2THE
1326;ETHIOPIC SYLLABLE THO;2THWA;2CHA;2CHU;2CHI;2CHAA;2CHEE;2CHE;2CHO;2CHWA;2PHA;2PHU;2PHI;2PHAA
1334;ETHIOPIC SYLLABLE PHEE;2PHE;2PHO;2PHWA;2TSA;2TSU;2TSI;2TSAA;2TSEE;2TSE;2TSO;2TSWA;2TZA;2TZU
1342;ETHIOPIC SYLLABLE TZI;2TZAA;2TZEE;2TZE;2TZO;2TZOA;2FA;2FU;2FI;2FAA;2FEE;2FE;2FO;2FWA;2PA;2PU
1352;ETHIOPIC SYLLABLE PI;2PAA;2PEE;2PE;2PO;2PWA;2RYA;2MYA;2FYA
135D;ETHIOPIC COMBggG GEMgAv l VOWEL LENGTH MARK;2VOWEL LENGTH MARK;2GEMgAv MARK;1SECv MARK
1361;ETHIOPIC WORDSPACE;1FULL STOP;1COMMA;1SEMICOLON;1COLON;1PREFACE COLON;1QUESv MARK
1368;ETHIOPIC PARAGRAPH SEPARATOR;1DIGIT ONE;2TWO;2THREE;2FOUR;2FIVE;2SIX;2SEVEN;2Ef;2NgE
1372;ETHIOPIC NUMBi TEN;2TWENTY;2THIRTY;2FORTY;2FIFTY;2SIXTY;2SEVENTY;2EfY;2NgETY;2HUNDRm
137C;ETHIOPIC NUMBi TEN THOUSl
1380;ETHIOPIC SYLLABLE SEBATBEIT MWA;2MWI;2MWEE;2MWE;2SEBATBEIT BWA;2BWI;2BWEE;2BWE;2SEBATBEIT FWA
1389;ETHIOPIC SYLLABLE FWI;2FWEE;2FWE;2SEBATBEIT PWA;2PWI;2PWEE;2PWE;1TONAL MARK YIZET;3DiET
1392;ETHIOPIC TONAL MARK RIKRIK;3SHORT RIKRIK;3DIFAT;3KENAT;3CHIRET;3HIDET;3DiET-HIDET;3KURT
13A0;CHiOKEE a A;2E;2I;2O;2U;2V;2GA;2KA;2GE;2GI;2GO;2GU;2GV;2HA;2HE;2HI;2HO;2HU;2HV;2LA;2LE;2LI
13B6;CHiOKEE a LO;2LU;2LV;2MA;2ME;2MI;2MO;2MU;2NA;2HNA;2NAH;2NE;2NI;2NO;2NU;2NV;2QUA;2QUE;2QUI
13C9;CHiOKEE a QUO;2QUU;2QUV;2SA;2S;2SE;2SI;2SO;2SU;2SV;2DA;2TA;2DE;2TE;2DI;2TI;2DO;2DU;2DV;2DLA
13DD;CHiOKEE a TLA;2TLE;2TLI;2TLO;2TLU;2TLV;2TSA;2TSE;2TSI;2TSO;2TSU;2TSV;2WA;2WE;2WI;2WO;2WU;2WV
13EF;CHiOKEE a YA;2YE;2YI;2YO;2YU;2YV;2MV
13F8;CHiOKEE e a YE;3YI;3YO;3YU;3YV;3MV
1400;CANADIAN SYLLABICS HYPHEN;2E;2AAI;2I;2II;2O;2OO;2Y-CREE OO;2CARRIi EE;3I;2A;2AA;2WE
140D;CANADIAN SYLLABICS WEST-CREE WE;2WI;2WEST-CREE WI;2WII;2WEST-CREE WII;2WO;2WEST-CREE WO;2WOO
1415;CANADIAN SYLLABICS WEST-CREE WOO;2NASKAPI WOO;2WA;2WEST-CREE WA;2WAA;2WEST-CREE WAA
141B;CANADIAN SYLLABICS NASKAPI WAA;2AI;2Y-CREE W;2GLOTTAL STOP;2FgAL ACUTE;3GRAVE
1421;CANADIAN SYLLABICS FgAL BOTTOM HALF RgG;3TOP HALF RgG;3Rf HALF RgG;3RgG;3r ACUTE
1426;CANADIAN SYLLABICS FgAL r SHORT ViTICAL yS;3MIDDLE s;3SHORT t y;3PLUS;3DOWN TACK;2EN;2g;2ON
142E;CANADIAN SYLLABICS AN;2PE;2PAAI;2PI;2PII;2PO;2POO;2Y-CREE POO;2CARRIi HEE;3HI;2PA;2PAA;2PWE
143B;CANADIAN SYLLABICS WEST-CREE PWE;2PWI;2WEST-CREE PWI;2PWII;2WEST-CREE PWII;2PWO
1441;CANADIAN SYLLABICS WEST-CREE PWO;2PWOO;2WEST-CREE PWOO;2PWA;2WEST-CREE PWA;2PWAA
1447;CANADIAN SYLLABICS WEST-CREE PWAA;2Y-CREE PWAA;2P;2WEST-CREE P;2CARRIi H;2TE;2TAAI;2TI;2TII
1450;CANADIAN SYLLABICS TO;2TOO;2Y-CREE TOO;2CARRIi DEE;3DI;2TA;2TAA;2TWE;2WEST-CREE TWE;2TWI
145A;CANADIAN SYLLABICS WEST-CREE TWI;2TWII;2WEST-CREE TWII;2TWO;2WEST-CREE TWO;2TWOO
1460;CANADIAN SYLLABICS WEST-CREE TWOO;2TWA;2WEST-CREE TWA;2TWAA;2WEST-CREE TWAA;2NASKAPI TWAA;2T
1467;CANADIAN SYLLABICS TTE;2TTI;2TTO;2TTA;2KE;2KAAI;2KI;2KII;2KO;2KOO;2Y-CREE KOO;2KA;2KAA;2KWE
1475;CANADIAN SYLLABICS WEST-CREE KWE;2KWI;2WEST-CREE KWI;2KWII;2WEST-CREE KWII;2KWO
147B;CANADIAN SYLLABICS WEST-CREE KWO;2KWOO;2WEST-CREE KWOO;2KWA;2WEST-CREE KWA;2KWAA
1481;CANADIAN SYLLABICS WEST-CREE KWAA;2NASKAPI KWAA;2K;2KW;2SOUTH-SLAVEY KEH;3KIH;3KOH;3KAH;2CE
148A;CANADIAN SYLLABICS CAAI;2CI;2CII;2CO;2COO;2Y-CREE COO;2CA;2CAA;2CWE;2WEST-CREE CWE;2CWI
1495;CANADIAN SYLLABICS WEST-CREE CWI;2CWII;2WEST-CREE CWII;2CWO;2WEST-CREE CWO;2CWOO
149B;CANADIAN SYLLABICS WEST-CREE CWOO;2CWA;2WEST-CREE CWA;2CWAA;2WEST-CREE CWAA;2NASKAPI CWAA;2C
14A2;CANADIAN SYLLABICS SAYISI TH;2ME;2MAAI;2MI;2MII;2MO;2MOO;2Y-CREE MOO;2MA;2MAA;2MWE
14AD;CANADIAN SYLLABICS WEST-CREE MWE;2MWI;2WEST-CREE MWI;2MWII;2WEST-CREE MWII;2MWO
14B3;CANADIAN SYLLABICS WEST-CREE MWO;2MWOO;2WEST-CREE MWOO;2MWA;2WEST-CREE MWA;2MWAA
14B9;CANADIAN SYLLABICS WEST-CREE MWAA;2NASKAPI MWAA;2M;2WEST-CREE M;2MH;2ATHAPASCAN M;2SAYISI M
14C0;CANADIAN SYLLABICS NE;2NAAI;2NI;2NII;2NO;2NOO;2Y-CREE NOO;2NA;2NAA;2NWE;2WEST-CREE NWE;2NWA
14CC;CANADIAN SYLLABICS WEST-CREE NWA;2NWAA;2WEST-CREE NWAA;2NASKAPI NWAA;2N;2CARRIi NG;2NH;2LE
14D4;CANADIAN SYLLABICS LAAI;2LI;2LII;2LO;2LOO;2Y-CREE LOO;2LA;2LAA;2LWE;2WEST-CREE LWE;2LWI
14DF;CANADIAN SYLLABICS WEST-CREE LWI;2LWII;2WEST-CREE LWII;2LWO;2WEST-CREE LWO;2LWOO
14E5;CANADIAN SYLLABICS WEST-CREE LWOO;2LWA;2WEST-CREE LWA;2LWAA;2WEST-CREE LWAA;2L;2WEST-CREE L
14EC;CANADIAN SYLLABICS MmIAL L;2SE;2SAAI;2SI;2SII;2SO;2SOO;2Y-CREE SOO;2SA;2SAA;2SWE
14F7;CANADIAN SYLLABICS WEST-CREE SWE;2SWI;2WEST-CREE SWI;2SWII;2WEST-CREE SWII;2SWO
14FD;CANADIAN SYLLABICS WEST-CREE SWO;2SWOO;2WEST-CREE SWOO;2SWA;2WEST-CREE SWA;2SWAA
1503;CANADIAN SYLLABICS WEST-CREE SWAA;2NASKAPI SWAA;2S;2ATHAPASCAN S;2SW;2zFOOT S;2MOOSE-CREE SK
150A;CANADIAN SYLLABICS NASKAPI SKW;3S-W;3SPWA;3STWA;3SKWA;3SCWA;2SHE;2SHI;2SHII;2SHO;2SHOO;2SHA
1516;CANADIAN SYLLABICS SHAA;2SHWE;2WEST-CREE SHWE;2SHWI;2WEST-CREE SHWI;2SHWII;2WEST-CREE SHWII
151D;CANADIAN SYLLABICS SHWO;2WEST-CREE SHWO;2SHWOO;2WEST-CREE SHWOO;2SHWA;2WEST-CREE SHWA;2SHWAA
1524;CANADIAN SYLLABICS WEST-CREE SHWAA;2SH;2YE;2YAAI;2YI;2YII;2YO;2YOO;2Y-CREE YOO;2YA;2YAA;2YWE
1530;CANADIAN SYLLABICS WEST-CREE YWE;2YWI;2WEST-CREE YWI;2YWII;2WEST-CREE YWII;2YWO
1536;CANADIAN SYLLABICS WEST-CREE YWO;2YWOO;2WEST-CREE YWOO;2YWA;2WEST-CREE YWA;2YWAA
153C;CANADIAN SYLLABICS WEST-CREE YWAA;2NASKAPI YWAA;2Y;2BIBLE-CREE Y;2WEST-CREE Y;2SAYISI YI;2RE
1543;CANADIAN SYLLABICS R-CREE RE;2WEST-CREE LE;2RAAI;2RI;2RII;2RO;2ROO;2WEST-CREE LO;2RA;2RAA
154D;CANADIAN SYLLABICS WEST-CREE LA;2RWAA;2WEST-CREE RWAA;2R;2WEST-CREE R;2MmIAL R;2FE;2FAAI;2FI
1556;CANADIAN SYLLABICS FII;2FO;2FOO;2FA;2FAA;2FWAA;2WEST-CREE FWAA;2F;2THE;2N-CREE THE;2THI
1561;CANADIAN SYLLABICS N-CREE THI;2THII;2N-CREE THII;2THO;2THOO;2THA;2THAA;2THWAA
1569;CANADIAN SYLLABICS WEST-CREE THWAA;2TH;2TTHE;2TTHI;2TTHO;2TTHA;2TTH;2TYE;2TYI;2TYO;2TYA
1574;CANADIAN SYLLABICS NUNAVIK HE;3HI;3HII;3HO;3HOO;3HA;3HAA;3H;2NUNAVUT H;2HK;2QAAI;2QI;2QII;2QO
1582;CANADIAN SYLLABICS QOO;2QA;2QAA;2Q;2TLHE;2TLHI;2TLHO;2TLHA;2WEST-CREE RE;3RI;3RO;3RA;2NGAAI
158F;CANADIAN SYLLABICS NGI;2NGII;2NGO;2NGOO;2NGA;2NGAA;2NG;2NNG;2SAYISI SHE;3SHI;3SHO;3SHA
159B;CANADIAN SYLLABICS WOODS-CREE THE;3THI;3THO;3THA;3TH;2LHI;2LHII;2LHO;2LHOO;2LHA;2LHAA;2LH
15A7;CANADIAN SYLLABICS TH-CREE THE;3THI;3THII;3THO;3THOO;3THA;3THAA;3TH;2AIVILIK B;2zFOOT E;3I;3O
15B3;CANADIAN SYLLABICS zFOOT A;3WE;3WI;3WO;3WA;3NE;3NI;3NO;3NA;3KE;3KI;3KO;3KA;2SAYISI HE;3HI;3HO
15C3;CANADIAN SYLLABICS SAYISI HA;2CARRIi GHU;3GHO;3GHE;3GHEE;3GHI;3GHA;3RU;3RO;3RE;3REE;3RI;3RA
15D0;CANADIAN SYLLABICS CARRIi WU;3WO;3WE;3WEE;3WI;3WA;3HWU;3HWO;3HWE;3HWEE;3HWI;3HWA;3THU;3THO
15DE;CANADIAN SYLLABICS CARRIi THE;3THEE;3THI;3THA;3TTU;3TTO;3TTE;3TTEE;3TTI;3TTA;3PU;3PO;3PE;3PEE
15EC;CANADIAN SYLLABICS CARRIi PI;3PA;3P;3GU;3GO;3GE;3GEE;3GI;3GA;3KHU;3KHO;3KHE;3KHEE;3KHI;3KHA
15FB;CANADIAN SYLLABICS CARRIi KKU;3KKO;3KKE;3KKEE;3KKI;3KKA;3KK;3NU;3NO;3NE;3NEE;3NI;3NA;3MU;3MO
160A;CANADIAN SYLLABICS CARRIi ME;3MEE;3MI;3MA;3YU;3YO;3YE;3YEE;3YI;3YA;3JU;2SAYISI JU;2CARRIi JO
1617;CANADIAN SYLLABICS CARRIi JE;3JEE;3JI;2SAYISI JI;2CARRIi JA;3JJU;3JJO;3JJE;3JJEE;3JJI;3JJA
1622;CANADIAN SYLLABICS CARRIi LU;3LO;3LE;3LEE;3LI;3LA;3DLU;3DLO;3DLE;3DLEE;3DLI;3DLA;3LHU;3LHO
1630;CANADIAN SYLLABICS CARRIi LHE;3LHEE;3LHI;3LHA;3TLHU;3TLHO;3TLHE;3TLHEE;3TLHI;3TLHA;3TLU;3TLO
163C;CANADIAN SYLLABICS CARRIi TLE;3TLEE;3TLI;3TLA;3ZU;3ZO;3ZE;3ZEE;3ZI;3ZA;3Z;3gITIAL Z;3DZU;3DZO
164A;CANADIAN SYLLABICS CARRIi DZE;3DZEE;3DZI;3DZA;3SU;3SO;3SE;3SEE;3SI;3SA;3SHU;3SHO;3SHE;3SHEE
1658;CANADIAN SYLLABICS CARRIi SHI;3SHA;3SH;3TSU;3TSO;3TSE;3TSEE;3TSI;3TSA;3CHU;3CHO;3CHE;3CHEE
1665;CANADIAN SYLLABICS CARRIi CHI;3CHA;3TTSU;3TTSO;3TTSE;3TTSEE;3TTSI;3TTSA;2CHI n;2FULL STOP
166F;CANADIAN SYLLABICS QAI;2NGAI;2NNGI;2NNGII;2NNGO;2NNGOO;2NNGA;2NNGAA;2WOODS-CREE THWEE;3THWI
1679;CANADIAN SYLLABICS WOODS-CREE THWII;3THWO;3THWOO;3THWA;3THWAA;3FgAL TH;2zFOOT W
1680;OGHAM SPACE MARK;1a BEITH;2LUIS;2FEARN;2SAIL;2NION;2UATH;2DAIR;2TgNE;2COLL;2CEIRT;2MUg;2GORT
168D;OGHAM a NGEADAL;2STRAIF;2RUIS;2AILM;2ONN;2UR;2EADHADH;2IODHADH;2EABHADH;2OR;2UILLEANN;2IFg
1699;OGHAM a EAMHANCHOLL;2PEITH;1FEATHi MARK;1REViSm FEATHi MARK
16A0;RUNIC a FEHU FEOH FE F;2V;2URUZ UR U;2YR;2Y;2W;2THURISAZ THURS THORN;2ETH;2ANSUZ A;2OS O
16AA;RUNIC a AC A;2AESC;2LONG-BRANCH-OSS O;2SHORT-TWIG-OSS O;2O;2OE;2ON;2RAIDO RAD REID R;2KAUNA
16B3;RUNIC a CEN;2KAUN K;2G;2ENG;2GEBO GYFU G;2GAR;2WUNJO WYNN W;2HAGLAZ H;2HAEGL H
16BC;RUNIC a LONG-BRANCH-HAGALL H;2SHORT-TWIG-HAGALL H;2NAUDIZ NYD NAUD N;2SHORT-TWIG-NAUD N
16C0;RUNIC a sTm-N;2ISAZ IS ISS I;2E;2JiAN J;2Gi;2LONG-BRANCH-AR AE;2SHORT-TWIG-AR A;2IWAZ EOH
16C8;RUNIC a PiTHO PEORTH P;2ALGIZ EOLHX;2SOWILO S;2SIGEL LONG-BRANCH-SOL S;2SHORT-TWIG-SOL S;2C
16CE;RUNIC a Z;2TIWAZ TIR TYR T;2SHORT-TWIG-TYR T;2D;2BiKANAN BEORC BJARKAN B
16D3;RUNIC a SHORT-TWIG-BJARKAN B;2sTm-P;2OPEN-P;2EHWAZ EH E;2MANNAZ MAN M;2LONG-BRANCH-MADR M
16D9;RUNIC a SHORT-TWIG-MADR M;2LAUKAZ LAGU LOGR L;2sTm-L;2gGWAZ;2gG;2DAGAZ DAEG D
16DF;RUNIC a OTHALAN ETHEL O;2EAR;2IOR;2CWEORTH;2CALC;2CEALC;2STAN;2LONG-BRANCH-YR;2SHORT-TWIG-YR
16E8;RUNIC a ICELlIC-YR;2Q;2X;1SgGLE PUNCTUAv;1MULTIPLE PUNCTUAv;1CROSS PUNCTUAv;1ARLAUG u
16EF;RUNIC TVIMADUR u;1BELGTHOR u;1a K;2SH;2OO;2FRANKS CASKET OS;4IS;4EH;4AC;4AESC
1700;TAGALOG a A;2I;2U;2KA;2GA;2NGA;2TA;2DA;2NA;2PA;2BA;2MA;2YA;2RA;2LA;2WA;2SA;2HA;1VOWEL n I;3U
1714;TAGALOG n VIRAMA;2PAMUDPOD
171F;TAGALOG a ARCHAIC RA;HANUNOO a A;2I;2U;2KA;2GA;2NGA;2TA;2DA;2NA;2PA;2BA;2MA;2YA;2RA;2LA;2WA
1730;HANUNOO a SA;2HA;1VOWEL n I;3U;1n PAMUDPOD;PHILIPPgE SgGLE PUNCTUAv;1r PUNCTUAv
1740;BUHID a A;2I;2U;2KA;2GA;2NGA;2TA;2DA;2NA;2PA;2BA;2MA;2YA;2RA;2LA;2WA;2SA;2HA;1VOWEL n I;3U
1760;TAGBANWA a A;2I;2U;2KA;2GA;2NGA;2TA;2DA;2NA;2PA;2BA;2MA;2YA
176E;TAGBANWA a LA;2WA;2SA
1772;TAGBANWA VOWEL n I;3U
1780;KHMi a KA;2KHA;2KO;2KHO;2NGO;2CA;2CHA;2CO;2CHO;2NYO;2DA;2TTHA;2DO;2TTHO;2NNO;2TA;2THA;2TO
1792;KHMi a THO;2NO;2BA;2PHA;2PO;2PHO;2MO;2YO;2RO;2LO;2VO;2SHA;2SSO;2SA;2HA;2LA;2QA
17A3;KHMi gDEPENDENT VOWEL QAQ;3QAA;3QI;3QII;3QU;3QUK;3QUU;3QUUV;3RY;3RYY;3LY;3LYY;3QE;3QAI
17B1;KHMi gDEPENDENT VOWEL QOO TYPE ONE;5TWO;3QAU;1VOWEL gHiENT AQ;3AA;2n AA;3I;3II;3Y;3YY;3U;3UU
17BD;KHMi VOWEL n UA;3OE;3YA;3IE;3E;3AE;3AI;3OO;3AU;1n NIKAHIT;2REAHMUK;2YUUKALEAPgTU;2MUUSIKATOAN
17CA;KHMi n TRIISAP;2BANTOC;2ROBAT;2TOlAKHIAT;2KAKABAT;2AHSDA;2SAMYOK SANNYA;2VIRIAM;2COENG
17D3;KHMi n BATHAMASAT;2KHAN;2BARIYOOSAN;2CAMNUC PII KUUH;2LEK TOO;2BEYYAL;2PHNAEK MUAN;2KOOMUUT
17DB;KHMi CURRENCY u RIEL;1n AVAKRAHASANYA;2ATTHACAN
17E0;KHMi DIGIT ZiO;2ONE;2TWO;2THREE;2FOUR;2FIVE;2SIX;2SEVEN;2Ef;2NgE
17F0;KHMi u LEK ATTAK SON;4MUOY;4PII;4BEI;4BUON;4PRAM;4PRAM-MUOY;4PRAM-PII;4PRAM-BEI;4PRAM-BUON
1800;MONGOLIAN BIRGA;1ELLIPSIS;1COMMA;1FULL STOP;1COLON;1FOUR sS;1TODO SOFT HYPHEN
1807;MONGOLIAN SIBE SYLLABLE BOUNDARY MARKi;1MANCHU COMMA;2FULL STOP;1NIRUGU;1FREE VARIAv o ONE
180C;MONGOLIAN FREE VARIAv o TWO;4THREE;1VOWEL SEPARATOR;1FREE VARIAv o FOUR;1DIGIT ZiO;2ONE;2TWO
1813;MONGOLIAN DIGIT THREE;2FOUR;2FIVE;2SIX;2SEVEN;2Ef;2NgE
1820;MONGOLIAN a A;2E;2I;2O;2U;2OE;2UE;2EE;2NA;2ANG;2BA;2PA;2QA;2GA;2MA;2LA;2SA;2SHA;2TA;2DA;2CHA
1835;MONGOLIAN a JA;2YA;2RA;2WA;2FA;2KA;2KHA;2TSA;2ZA;2HAA;2ZRA;2LHA;2ZHI;2CHI;2TODO LONG VOWEL n
1844;MONGOLIAN a TODO E;3I;3O;3U;3OE;3UE;3ANG;3BA;3PA;3QA;3GA;3MA;3TA;3DA;3CHA;3JA;3TSA;3YA;3WA
1857;MONGOLIAN a TODO KA;3GAA;3HAA;3JIA;3NIA;3DZA;2SIBE E;3I;3IY;3UE;3U;3ANG;3KA;3GA;3HA;3PA;3SHA
1868;MONGOLIAN a SIBE TA;3DA;3JA;3FA;3GAA;3HAA;3TSA;3ZA;3RAA;3CHA;3ZHA;2MANCHU I;3KA;3RA;3FA;3ZHA
1878;MONGOLIAN a CHA c TWO sS
1880;MONGOLIAN a ALI GALI ANUSVARA ONE;4VISARGA ONE;4DAMARU;4UBADAMA;4gViTm UBADAMA;4BALUDA
1886;MONGOLIAN a ALI GALI THREE BALUDA;4A;4I;4KA;4NGA;4CA;4TTA;4TTHA;4DDA;4NNA;4TA;4DA;4PA;4PHA
1894;MONGOLIAN a ALI GALI SSA;4ZHA;4ZA;4AH;2TODO ALI GALI TA;5ZHA;2MANCHU ALI GALI GHA;5NGA;5CA
189D;MONGOLIAN a MANCHU ALI GALI JHA;5TTA;5DDHA;5TA;5DHA;5SSA;5CYA;5ZHA;5ZA;2ALI GALI HALF U;5YA
18A8;MONGOLIAN a MANCHU ALI GALI BHA;2ALI GALI DAGALGA;2MANCHU ALI GALI LHA
18B0;CANADIAN SYLLABICS OY;2AY;2AAY;2WAY;2POY;2PAY;2PWOY;2TAY;2KAY;2KWAY;2MAY;2NOY;2NAY;2LAY;2SOY
18BF;CANADIAN SYLLABICS SAY;2SHOY;2SHAY;2SHWOY;2YOY;2YAY;2RAY;2NWI;2OJIBWAY NWI;2NWII
18C9;CANADIAN SYLLABICS OJIBWAY NWII;2NWO;2OJIBWAY NWO;2NWOO;2OJIBWAY NWOO;2RWEE;2RWI;2RWII;2RWO
18D2;CANADIAN SYLLABICS RWOO;2RWA;2OJIBWAY P;3T;3K;3C;3M;3N;3S;3SH;2EASTiN W;2WESTiN W;2FgAL e RgG
18DF;CANADIAN SYLLABICS FgAL RAISm s;2R-CREE RWE;2WEST-CREE LOO;3LAA;2THWE;2THWA;2TTHWE;2TTHOO
18E7;CANADIAN SYLLABICS TTHAA;2TLHWE;2TLHOO;2SAYISI SHWE;3SHOO;3HOO;2CARRIi GWU;3DENE GEE;3GAA
18F0;CANADIAN SYLLABICS CARRIi GWA;2SAYISI JUU;2CARRIi JWA;2BEAVi DENE L;4R;2CARRIi DENTAL S
1900;LIMBU VOWEL-CARRIi a;1a KA;2KHA;2GA;2GHA;2NGA;2CA;2CHA;2JA;2JHA;2YAN;2TA;2THA;2DA;2DHA;2NA
1910;LIMBU a PA;2PHA;2BA;2BHA;2MA;2YA;2RA;2LA;2WA;2SHA;2SSA;2SA;2HA;2GYAN;2TRA
1920;LIMBU VOWEL n A;3I;3U;3EE;3AI;3OO;3AU;3E;3O;1SUBJOgm a YA;3RA;3WA
1930;LIMBU e a KA;3NGA;3ANUSVARA;3TA;3NA;3PA;3MA;3RA;3LA;1n MUKPHRENG;2KEMPHRENG;2SA-I
1940;LIMBU n LOO
1944;LIMBU EXCLAMAv MARK;1QUESv MARK;1DIGIT ZiO;2ONE;2TWO;2THREE;2FOUR;2FIVE;2SIX;2SEVEN;2Ef;2NgE
1950;TAI LE a KA;3XA;3NGA;3TSA;3SA;3YA;3TA;3THA;3LA;3PA;3PHA;3MA;3FA;3VA;3HA;3QA;3KHA;3TSHA;3NA;3A
1964;TAI LE a I;3EE;3EH;3U;3OO;3O;3UE;3E;3AUE;3AI
1970;TAI LE a TONE-2;3TONE-3;3TONE-4;3TONE-5;3TONE-6
1980;NEW TAI LUE a HIGH QA;4LOW QA;4HIGH KA;5XA;5NGA;4LOW KA;5XA;5NGA;4HIGH TSA;5SA;5YA;4LOW TSA
198C;NEW TAI LUE a LOW SA;5YA;4HIGH TA;5THA;5NA;4LOW TA;5THA;5NA;4HIGH PA;5PHA;5MA;4LOW PA;5PHA
1999;NEW TAI LUE a LOW MA;4HIGH FA;5VA;5LA;4LOW FA;5VA;5LA;4HIGH HA;5DA;5BA;4LOW HA;5DA;5BA
19A6;NEW TAI LUE a HIGH KVA;5XVA;4LOW KVA;5XVA;4HIGH SUA;4LOW SUA
19B0;NEW TAI LUE VOWEL n VOWEL SHORTENi;5AA;5II;5U;5UU;5E;5AE;5O;5OA;5UE;5AY;5AAY;5UY;5OY;5OAY
19BF;NEW TAI LUE VOWEL n UEY;5IY;3a FgAL V;5NG;5N;5M;5K;5D;5B;3TONE MARK-1;4MARK-2
19D0;NEW TAI LUE DIGIT ZiO;4ONE;4TWO;4THREE;4FOUR;4FIVE;4SIX;4SEVEN;4Ef;4NgE;3THAM DIGIT ONE
19DE;NEW TAI LUE n LAE;4LAEV;KHMi u PATHAMASAT;2MUOY KOET;2PII KOET;2BEI KOET;2BUON KOET
19E5;KHMi u PRAM KOET;2PRAM-MUOY KOET;2PRAM-PII KOET;2PRAM-BEI KOET;2PRAM-BUON KOET;2DAP KOET
19EB;KHMi u DAP-MUOY KOET;2DAP-PII KOET;2DAP-BEI KOET;2DAP-BUON KOET;2DAP-PRAM KOET;2TUTEYASAT
19F1;KHMi u MUOY ROC;2PII ROC;2BEI ROC;2BUON ROC;2PRAM ROC;2PRAM-MUOY ROC;2PRAM-PII ROC
19F8;KHMi u PRAM-BEI ROC;2PRAM-BUON ROC;2DAP ROC;2DAP-MUOY ROC;2DAP-PII ROC;2DAP-BEI ROC
19FE;KHMi u DAP-BUON ROC;2DAP-PRAM ROC;BUGgESE a KA;2GA;2NGA;2NGKA;2PA;2BA;2MA;2MPA;2TA;2DA;2NA
1A0B;BUGgESE a NRA;2CA;2JA;2NYA;2NYCA;2YA;2RA;2LA;2VA;2SA;2A;2HA;1VOWEL n I;3U;3E;3O;3AE
1A1E;BUGgESE PALLAWA;1END OF SECv;TAI THAM a HIGH KA;4KHA;4KXA;3LOW KA;4KXA;4KHA;3NGA;3HIGH CA
1A28;TAI THAM a HIGH CHA;3LOW CA;4SA;4CHA;3NYA;3RATA;3HIGH RATHA;3DA;3LOW RATHA;3RANA;3HIGH TA
1A33;TAI THAM a HIGH THA;3LOW TA;4THA;3NA;3BA;3HIGH PA;4PHA;4FA;3LOW PA;4FA;4PHA;3MA;3LOW YA
1A40;TAI THAM a HIGH YA;3RA;3RUE;3LA;3LUE;3WA;3HIGH SHA;4SSA;4SA;4HA;3LLA;3A;3LOW HA;3I;3II;3U;3UU
1A51;TAI THAM a EE;3OO;3LAE;3GREAT SA;2CONSONANT n MmIAL RA;5LA;4LA TANG LAI;2n MAI KANG LAI
1A59;TAI THAM CONSONANT n FgAL NGA;4LOW PA;4HIGH RATHA OR LOW PA;4MA;4BA;4SA
1A60;TAI THAM n SAKOT;2VOWEL n A;4MAI SAT;4AA;4TALL AA;4I;4II;4UE;4UUE;4U;4UU;4O;4OA x;4OY;4E;4AE
1A70;TAI THAM VOWEL n OO;4AI;4THAM AI;4OA q;2n MAI KANG;3TONE-1;3TONE-2;3KHUEN TONE-3;4TONE-4
1A79;TAI THAM n KHUEN TONE-5;3RA HAAM;3MAI SAM;3KHUEN-LUE KARAN
1A7F;TAI THAM COMBggG CRYPTOGRAMMIC s;2HORA DIGIT ZiO;4ONE;4TWO;4THREE;4FOUR;4FIVE;4SIX;4SEVEN;4Ef
1A89;TAI THAM HORA DIGIT NgE
1A90;TAI THAM THAM DIGIT ZiO;4ONE;4TWO;4THREE;4FOUR;4FIVE;4SIX;4SEVEN;4Ef;4NgE
1AA0;TAI THAM n WIANG;3WIANGWAAK;3SAWAN;3KEOW;3HOY;3DOKMAI;3REViSm ROTATm RANA;3MAI YAMOK;3KAAN
1AA9;TAI THAM n KAANKUU;3SATKAAN;3SATKAANKUU;3HANG;3CAANG
1AB0;COMBggG DOUBLm CIRCUMFLEX ACCENT;1DIAiESIS-RgG;1gFgITY;1DOWNk h;1TRIPLE s;1X-X x
1AB6;COMBggG WIGGLY LgE x;1OPEN MARK x;1r OPEN MARK x;1Lf CENTRALIZAv y x;1STRONG CENTRALIZAv y x
1ABB;COMBggG PARENTHESES q;1r PARENTHESES q;1PARENTHESES x;2OViLAY;1LATg e a W x;4TURNm W x
1AC1;COMBggG p PARENTHESIS q p;1Rf PARENTHESIS q Rf;1p PARENTHESIS x p;1Rf PARENTHESIS x Rf
1AC5;COMBggG SQUARE BRACKETS q;1NUMBi n q;1gViTm r ARCH q;1PLUS n q;1r PLUS n q;4x
1ACB;COMBggG TRIPLE ACUTE ACCENT;1LATg e a gSULAR G;5R;5T
1B00;BALgESE n ULU RICEM;3ClRA;2CECEK;2SURANG;2BISAH;1a AKARA;3TmUNG;2IKARA;3TmUNG;2UKARA;3TmUNG
1B0B;BALgESE a RA REPA;4TmUNG;2LA LENGA;4TmUNG;2EKARA;2AIKARA;2OKARA;3TmUNG;2KA;3MAHAPRANA;2GA
1B16;BALgESE a GA GORA;2NGA;2CA;3LACA;2JA;3JiA;2NYA;2TA LATIK;3MURDA MAHAPRANA;2DA MURDA ALPAPRANA
1B20;BALgESE a DA MURDA MAHAPRANA;2NA RAMBAT;2TA;3TAWA;2DA;3MADU;2NA;2PA;3KAPAL;2BA;3KEMBANG;2MA
1B2C;BALgESE a YA;2RA;2LA;2WA;2SA SAGA;3SAPA;2SA;2HA;1n RiEKAN;1VOWEL n TmUNG;3ULU;4SARI;3SUKU
1B39;BALgESE VOWEL n SUKU ILUT;3RA REPA;5TmUNG;3LA LENGA;5TmUNG;3TALgG;4REPA;4TmUNG;4REPA TmUNG
1B42;BALgESE VOWEL n PEPET;4TmUNG;1ADEG ADEG;1a KAF SASAK;2KHOT SASAK;2TZIR SASAK;2EF SASAK
1B49;BALgESE a VE SASAK;2ZAL SASAK;2ASYURA SASAK;2ARCHAIC JNYA
1B50;BALgESE DIGIT ZiO;2ONE;2TWO;2THREE;2FOUR;2FIVE;2SIX;2SEVEN;2Ef;2NgE;1PANTI;1PAMADA;1WgDU
1B5D;BALgESE CARIK PAMUNGKAH;2SIKI;2PARiEN;1PAMENENG;1MUSICAL u DONG;3DENG;3DUNG;3DANG;4SURANG
1B66;BALgESE MUSICAL u DgG;3DAENG;3DEUNG;3DAgG;3DANG GmE;3COMBggG TEGEH;4ENDEP;4KEMPUL;4KEMPLI
1B6F;BALgESE MUSICAL u COMBggG JEGOGAN;4KEMPUL c JEGOGAN;4KEMPLI c JEGOGAN;4BENDE;4GONG
1B74;BALgESE MUSICAL u Rf-Hl OPEN DUG;5DAG;4CLOSm TUK;5TAK;3p-Hl OPEN PANG;5PUNG;4CLOSm PLAK;5PLUK
1B7C;BALgESE MUSICAL u p-Hl OPEN PgG;1PANTI LANTANG;1PAMADA LANTANG
1B80;SUNDANESE n PANYECEK;2PANGLAYAR;2PANGWISAD;1a A;2I;2U;2AE;2O;2E;2EU;2KA;2QA;2GA;2NGA;2CA;2JA
1B90;SUNDANESE a ZA;2NYA;2TA;2DA;2NA;2PA;2FA;2VA;2BA;2MA;2YA;2RA;2LA;2WA;2SA;2XA;2HA
1BA1;SUNDANESE CONSONANT n PAMgGKAL;3PANYAKRA;3PANYIKU;1VOWEL n PANGHULU;3PANYUKU;3PANAELAENG
1BA7;SUNDANESE VOWEL n PANOLONG;3PAMEPET;3PANEULEUNG;1n PAMAAEH;2VIRAMA;1CONSONANT n PASANGAN MA
1BAD;SUNDANESE CONSONANT n PASANGAN WA;1a KHA;2SYA;1DIGIT ZiO;2ONE;2TWO;2THREE;2FOUR;2FIVE;2SIX
1BB7;SUNDANESE DIGIT SEVEN;2Ef;2NgE;1AVAGRAHA;1a REU;2LEU;2BHA;2FgAL K;3M;BATAK a A;2SIMALUNGUN A
1BC2;BATAK a HA;2SIMALUNGUN HA;2MlAILgG HA;2BA;2KARO BA;2PA;2SIMALUNGUN PA;2NA;2MlAILgG NA;2WA
1BCC;BATAK a SIMALUNGUN WA;2PAKPAK WA;2GA;2SIMALUNGUN GA;2JA;2DA;2RA;2SIMALUNGUN RA;2MA
1BD5;BATAK a SIMALUNGUN MA;2SOUTHiN TA;2NORTHiN TA;2SA;2SIMALUNGUN SA;2MlAILgG SA;2YA
1BDC;BATAK a SIMALUNGUN YA;2NGA;2LA;2SIMALUNGUN LA;2NYA;2CA;2NDA;2MBA;2I;2U;1n TOMPI;1VOWEL n E
1BE8;BATAK VOWEL n PAKPAK E;3EE;3I;3KARO I;3O;3KARO O;3U;4FOR SIMALUNGUN SA;1CONSONANT n NG;3H
1BF2;BATAK PANGOLAT;1PANONGONAN
1BFC;BATAK u BgDU NA METEK;3PgARBORAS;3JUDUL;3PANGOLAT;LEPCHA a KA;2KLA;2KHA;2GA;2GLA;2NGA;2CA
1C07;LEPCHA a CHA;2JA;2NYA;2TA;2THA;2DA;2NA;2PA;2PLA;2PHA;2FA;2FLA;2BA;2BLA;2MA;2MLA;2TSA;2TSHA
1C19;LEPCHA a DZA;2YA;2RA;2LA;2HA;2HLA;2VA;2SA;2SHA;2WA;2A;1SUBJOgm a YA;3RA;1VOWEL n AA;3I;3O;3OO
1C2A;LEPCHA VOWEL n U;3UU;3E;1CONSONANT n K;3M;3L;3N;3P;3R;3T;3NYg-DO;3KANG;1n RAN;2NUKTA
1C3B;LEPCHA PUNCTUAv TA-ROL;2NYET THYOOM TA-ROL;2Ci-WA;2TSHOOK Ci-WA;2TSHOOK;1DIGIT ZiO;2ONE;2TWO
1C43;LEPCHA DIGIT THREE;2FOUR;2FIVE;2SIX;2SEVEN;2Ef;2NgE
1C4D;LEPCHA a TTA;2TTHA;2DDA;OL CHIKI DIGIT ZiO;3ONE;3TWO;3THREE;3FOUR;3FIVE;3SIX;3SEVEN;3Ef;3NgE
1C5A;OL CHIKI a LA;3AT;3AG;3ANG;3AL;3LAA;3AAK;3AAJ;3AAM;3AAW;3LI;3IS;3IH;3gY;3IR;3LU;3UC;3UD;3UNN
1C6D;OL CHIKI a UY;3LE;3EP;3mD;3EN;3iR;3LO;3OTT;3OB;3OV;3OH;2MU TTUDDAG;2GAAHLAA TTUDDAAG
1C7A;OL CHIKI MU-GAAHLAA TTUDDAAG;2RELAA;2PHAARKAA;2AHAD;2PUNCTUAv MUCAAD;3r MUCAAD
1C80;CYRILLIC e a ROUNDm VE;3LONG-LEGGm DE;3Nh O;3WIDE ES;3TALL TE;3THREE-LEGGm TE;3TALL HARD n
1C87;CYRILLIC e a TALL YAT;3UNBLENDm UK
1C90;GEORGIAN MTAVRULI d a AN;4BAN;4GAN;4DON;4EN;4Vg;4ZEN;4TAN;4g;4KAN;4LAS;4MAN;4NAR;4ON;4PAR
1C9F;GEORGIAN MTAVRULI d a ZHAR;4RAE;4SAN;4TAR;4UN;4PHAR;4KHAR;4GHAN;4QAR;4SHg;4CHg;4CAN;4JIL;4CIL
1CAD;GEORGIAN MTAVRULI d a CHAR;4XAN;4JHAN;4HAE;4HE;4HIE;4WE;4HAR;4HOE;4FI;4YN;4ELIFI;4TURNm GAN
1CBA;GEORGIAN MTAVRULI d a Ag
1CBD;GEORGIAN MTAVRULI d a AEN;4HARD n;4LABIAL n;SUNDANESE PUNCTUAv BgDU SURYA;3PANGLONG;3PURNAMA
1CC3;SUNDANESE PUNCTUAv BgDU CAKRA;3LEU SATANGA;3KA SATANGA;3DA SATANGA;3BA SATANGA
1CD0;VmIC TONE KARSHANA;2SHARA;2PRENKHA;1n NIHSHVASA;2YAJURVmIC MIDLgE SVARITA
1CD5;VmIC TONE YAJURVmIC AGGRAVATm gDEPENDENT SVARITA;3gDEPENDENT SVARITA
1CD7;VmIC TONE YAJURVmIC KATHAKA gDEPENDENT SVARITA;2ClRA x
1CD9;VmIC TONE YAJURVmIC KATHAKA gDEPENDENT SVARITA SCHROmi;2r SVARITA;2TRIPLE SVARITA
1CDC;VmIC TONE KATHAKA ANUDATTA;2s x;2TWO sS x;2THREE sS x;2RIGVmIC KASHMIRI gDEPENDENT SVARITA
1CE1;VmIC TONE ATHARVAVmIC gDEPENDENT SVARITA;1n VISARGA SVARITA;3UDATTA;2REViSm VISARGA UDATTA
1CE5;VmIC n VISARGA ANUDATTA;2REViSm VISARGA ANUDATTA;2VISARGA UDATTA c TAIL;3ANUDATTA c TAIL
1CE9;VmIC n ANUSVARA ANTARGOMUKHA;3BAHIRGOMUKHA;3VAMAGOMUKHA;4c TAIL;2TIRYAK;2HEXIj LONG ANUSVARA
1CEF;VmIC n LONG ANUSVARA;2RTHANG LONG ANUSVARA;2ANUSVARA UBHAYATO MUKHA;2ARDHAVISARGA
1CF3;VmIC n ROTATm ARDHAVISARGA;1TONE ClRA q;1n JIHVAMULIYA;2UPADHMANIYA;2ATIKRAMA;1TONE RgG q
1CF9;VmIC TONE r RgG q;1n r ANUSVARA ANTARGOMUKHA
1D00;LATg a e d A;4AE;1e a TURNm AE;1a e d BARRm B;4C;4D;4ETH;4E;1e a TURNm OPEN E;4I;1a e d J;4K
1D0C;LATg a e d L c y;4M;4REViSm N;4O;4OPEN O;1e a SIDEWAYS O;4OPEN O;4O c y;3TURNm OE;1a e d OU
1D16;LATg e a TOP HALF O;3BOTTOM HALF O;1a e d P;4REViSm R;4TURNm R;4T;4U;1e a SIDEWAYS U
1D1E;LATg e a SIDEWAYS DIAiESIZm U;4TURNm M;1a e d V;4W;4Z;4EZH;2VOICm LARYNGEAL SPIRANT;2Ag
1D26;GREEK a e d GAMMA;4LAMDA;4PI;4RHO;4PSI;CYRILLIC a e d EL;MODIFIi a d A;3AE;3B;3BARRm B;3D;3E
1D32;MODIFIi a d REViSm E;3G;3H;3I;3J;3K;3L;3M;3N;3REViSm N;3O;3OU;3P;3R;3T;3U;3W;2e A;3TURNm A
1D45;MODIFIi a e ALPHA;3TURNm AE;3B;3D;3E;3SCHWA;3OPEN E;3TURNm OPEN E;3G;3TURNm I;3K;3M;3ENG;3O
1D53;MODIFIi a e OPEN O;3TOP HALF O;3BOTTOM HALF O;3P;3T;3U;3SIDEWAYS U;3TURNm M;3V;3Ag;3BETA
1D5E;MODIFIi a e GREEK GAMMA;3DELTA;3GREEK PHI;3CHI;LATg SUBSCRIPT e a I;4R;4U;4V
1D66;GREEK SUBSCRIPT e a BETA;4GAMMA;4RHO;4PHI;4CHI;LATg e a UE;3B c MIDDLE TILDE
1D6D;LATg e a D c MIDDLE TILDE;3F c MIDDLE TILDE;3M c MIDDLE TILDE;3N c MIDDLE TILDE
1D71;LATg e a P c MIDDLE TILDE;3R c MIDDLE TILDE;5FISHHOOK l MIDDLE TILDE;3S c MIDDLE TILDE
1D75;LATg e a T c MIDDLE TILDE;3Z c MIDDLE TILDE;3TURNm G;MODIFIi a CYRILLIC EN;LATg e a gSULAR G
1D7A;LATg e a TH c STRIKETHROUGH;2d a I c y;2a IOTA c y;3P c y;2d a U c y;2a UPSILON c y
1D80;LATg e a B c PALATAL HOOK;3D c PALATAL HOOK;3F c PALATAL HOOK;3G c PALATAL HOOK
1D84;LATg e a K c PALATAL HOOK;3L c PALATAL HOOK;3M c PALATAL HOOK;3N c PALATAL HOOK
1D88;LATg e a P c PALATAL HOOK;3R c PALATAL HOOK;3S c PALATAL HOOK;3ESH c PALATAL HOOK
1D8C;LATg e a V c PALATAL HOOK;3X c PALATAL HOOK;3Z c PALATAL HOOK;3A c RETROFLEX HOOK
1D90;LATg e a ALPHA c RETROFLEX HOOK;3D c HOOK l TAIL;3E c RETROFLEX HOOK;3OPEN E c RETROFLEX HOOK
1D94;LATg e a REViSm OPEN E c RETROFLEX HOOK;3SCHWA c RETROFLEX HOOK;3I c RETROFLEX HOOK
1D97;LATg e a OPEN O c RETROFLEX HOOK;3ESH c RETROFLEX HOOK;3U c RETROFLEX HOOK
1D9A;LATg e a EZH c RETROFLEX HOOK;MODIFIi a e TURNm ALPHA;3C;4c CURL;3ETH;3REViSm OPEN E;3F
1DA1;MODIFIi a e sLESS J c y;3SCRIPT G;3TURNm H;3I c y;3IOTA;3d I;5c y;3J c CROSSm-TAIL
1DA9;MODIFIi a e L c RETROFLEX HOOK;5PALATAL HOOK;3d L;3M c HOOK;3TURNm M c LONG LEG;3N c p HOOK
1DAF;MODIFIi a e N c RETROFLEX HOOK;3d N;3BARRm O;3PHI;3S c HOOK;3ESH;3T c PALATAL HOOK;3U BAR
1DB7;MODIFIi a e UPSILON;3d U;3V c HOOK;3TURNm V;3Z;4c RETROFLEX HOOK;5CURL;3EZH;3THETA
1DC0;COMBggG sTm GRAVE ACCENT;2ACUTE ACCENT;1SNAKE x;1SUSPENSION MARK;1MACRON-ACUTE;1GRAVE-MACRON
1DC6;COMBggG MACRON-GRAVE;1ACUTE-MACRON;1GRAVE-ACUTE-GRAVE;1ACUTE-GRAVE-ACUTE;1LATg e a R x
1DCB;COMBggG BREVE-MACRON;1MACRON-BREVE;1r CIRCUMFLEX q;1OGONEK q;1ZIGZAG x;1IS x;1UR q;1US q
1DD3;COMBggG LATg e a FLATTENm OPEN A q;4AE;4AO;4AV;4C CmILLA;4gSULAR D;4ETH;4G;2a e d G;2e a K;4L
1DDE;COMBggG LATg a e d L;5M;2e a N;2a e d N;5R;2e a R ROTUNDA;4S;4LONG S;4Z;4ALPHA;4B;4BETA
1DEA;COMBggG LATg e a SCHWA;4F;4L c r MIDDLE TILDE;4O c Lf CENTRALIZAv y;4P;4ESH
1DF0;COMBggG LATg e a U c Lf CENTRALIZAv y;4W;4A c DIAiESIS;4O c DIAiESIS;4U c DIAiESIS;1UP TACK q
1DF6;COMBggG KAVYKA q Rf;3p;1s q p;1WIDE gViTm BRIDGE x;1s x p;1DELEv MARK;1r gViTm BREVE x
1DFD;COMBggG ALMOST EQUAL TO x;1p hHEAD q;1Rf hHEAD l DOWN hHEAD x;LATg d a A c RgG x
1E01;LATg e a A c RgG x;1d a B c s q;1e a B c s q;1d a B c s x;1e a B c s x;1d a B c LgE x
1E07;LATg e a B c LgE x;1d a C c CmILLA l ACUTE;1e a C c CmILLA l ACUTE;1d a D c s q;1e a D c s q
1E0C;LATg d a D c s x;1e a D c s x;1d a D c LgE x;1e a D c LgE x;1d a D c CmILLA;1e a D c CmILLA
1E12;LATg d a D c CIRCUMFLEX x;1e a D c CIRCUMFLEX x;1d a E c MACRON l GRAVE
1E15;LATg e a E c MACRON l GRAVE;1d a E c MACRON l ACUTE;1e a E c MACRON l ACUTE
1E18;LATg d a E c CIRCUMFLEX x;1e a E c CIRCUMFLEX x;1d a E c TILDE x;1e a E c TILDE x
1E1C;LATg d a E c CmILLA l BREVE;1e a E c CmILLA l BREVE;1d a F c s q;1e a F c s q;1d a G c MACRON
1E21;LATg e a G c MACRON;1d a H c s q;1e a H c s q;1d a H c s x;1e a H c s x;1d a H c DIAiESIS
1E27;LATg e a H c DIAiESIS;1d a H c CmILLA;1e a H c CmILLA;1d a H c BREVE x;1e a H c BREVE x
1E2C;LATg d a I c TILDE x;1e a I c TILDE x;1d a I c DIAiESIS l ACUTE;1e a I c DIAiESIS l ACUTE
1E30;LATg d a K c ACUTE;1e a K c ACUTE;1d a K c s x;1e a K c s x;1d a K c LgE x;1e a K c LgE x
1E36;LATg d a L c s x;1e a L c s x;1d a L c s x l MACRON;1e a L c s x l MACRON;1d a L c LgE x
1E3B;LATg e a L c LgE x;1d a L c CIRCUMFLEX x;1e a L c CIRCUMFLEX x;1d a M c ACUTE;1e a M c ACUTE
1E40;LATg d a M c s q;1e a M c s q;1d a M c s x;1e a M c s x;1d a N c s q;1e a N c s q
1E46;LATg d a N c s x;1e a N c s x;1d a N c LgE x;1e a N c LgE x;1d a N c CIRCUMFLEX x
1E4B;LATg e a N c CIRCUMFLEX x;1d a O c TILDE l ACUTE;1e a O c TILDE l ACUTE
1E4E;LATg d a O c TILDE l DIAiESIS;1e a O c TILDE l DIAiESIS;1d a O c MACRON l GRAVE
1E51;LATg e a O c MACRON l GRAVE;1d a O c MACRON l ACUTE;1e a O c MACRON l ACUTE;1d a P c ACUTE
1E55;LATg e a P c ACUTE;1d a P c s q;1e a P c s q;1d a R c s q;1e a R c s q;1d a R c s x
1E5B;LATg e a R c s x;1d a R c s x l MACRON;1e a R c s x l MACRON;1d a R c LgE x;1e a R c LgE x
1E60;LATg d a S c s q;1e a S c s q;1d a S c s x;1e a S c s x;1d a S c ACUTE l s q
1E65;LATg e a S c ACUTE l s q;1d a S c CARON l s q;1e a S c CARON l s q;1d a S c s x l s q
1E69;LATg e a S c s x l s q;1d a T c s q;1e a T c s q;1d a T c s x;1e a T c s x;1d a T c LgE x
1E6F;LATg e a T c LgE x;1d a T c CIRCUMFLEX x;1e a T c CIRCUMFLEX x;1d a U c DIAiESIS x
1E73;LATg e a U c DIAiESIS x;1d a U c TILDE x;1e a U c TILDE x;1d a U c CIRCUMFLEX x
1E77;LATg e a U c CIRCUMFLEX x;1d a U c TILDE l ACUTE;1e a U c TILDE l ACUTE
1E7A;LATg d a U c MACRON l DIAiESIS;1e a U c MACRON l DIAiESIS;1d a V c TILDE;1e a V c TILDE
1E7E;LATg d a V c s x;1e a V c s x;1d a W c GRAVE;1e a W c GRAVE;1d a W c ACUTE;1e a W c ACUTE
1E84;LATg d a W c DIAiESIS;1e a W c DIAiESIS;1d a W c s q;1e a W c s q;1d a W c s x;1e a W c s x
1E8A;LATg d a X c s q;1e a X c s q;1d a X c DIAiESIS;1e a X c DIAiESIS;1d a Y c s q;1e a Y c s q
1E90;LATg d a Z c CIRCUMFLEX;1e a Z c CIRCUMFLEX;1d a Z c s x;1e a Z c s x;1d a Z c LgE x
1E95;LATg e a Z c LgE x;3H c LgE x;3T c DIAiESIS;3W c RgG q;3Y c RgG q;3A c Rf HALF RgG
1E9B;LATg e a LONG S c s q;6DIAGONAL y;6HIGH y;1d a SHARP S;1e a DELTA;1d a A c s x;1e a A c s x
1EA2;LATg d a A c HOOK q;1e a A c HOOK q;1d a A c CIRCUMFLEX l ACUTE;1e a A c CIRCUMFLEX l ACUTE
1EA6;LATg d a A c CIRCUMFLEX l GRAVE;1e a A c CIRCUMFLEX l GRAVE;1d a A c CIRCUMFLEX l HOOK q
1EA9;LATg e a A c CIRCUMFLEX l HOOK q;1d a A c CIRCUMFLEX l TILDE;1e a A c CIRCUMFLEX l TILDE
1EAC;LATg d a A c CIRCUMFLEX l s x;1e a A c CIRCUMFLEX l s x;1d a A c BREVE l ACUTE
1EAF;LATg e a A c BREVE l ACUTE;1d a A c BREVE l GRAVE;1e a A c BREVE l GRAVE
1EB2;LATg d a A c BREVE l HOOK q;1e a A c BREVE l HOOK q;1d a A c BREVE l TILDE
1EB5;LATg e a A c BREVE l TILDE;1d a A c BREVE l s x;1e a A c BREVE l s x;1d a E c s x
1EB9;LATg e a E c s x;1d a E c HOOK q;1e a E c HOOK q;1d a E c TILDE;1e a E c TILDE
1EBE;LATg d a E c CIRCUMFLEX l ACUTE;1e a E c CIRCUMFLEX l ACUTE;1d a E c CIRCUMFLEX l GRAVE
1EC1;LATg e a E c CIRCUMFLEX l GRAVE;1d a E c CIRCUMFLEX l HOOK q;1e a E c CIRCUMFLEX l HOOK q
1EC4;LATg d a E c CIRCUMFLEX l TILDE;1e a E c CIRCUMFLEX l TILDE;1d a E c CIRCUMFLEX l s x
1EC7;LATg e a E c CIRCUMFLEX l s x;1d a I c HOOK q;1e a I c HOOK q;1d a I c s x;1e a I c s x
1ECC;LATg d a O c s x;1e a O c s x;1d a O c HOOK q;1e a O c HOOK q;1d a O c CIRCUMFLEX l ACUTE
1ED1;LATg e a O c CIRCUMFLEX l ACUTE;1d a O c CIRCUMFLEX l GRAVE;1e a O c CIRCUMFLEX l GRAVE
1ED4;LATg d a O c CIRCUMFLEX l HOOK q;1e a O c CIRCUMFLEX l HOOK q;1d a O c CIRCUMFLEX l TILDE
1ED7;LATg e a O c CIRCUMFLEX l TILDE;1d a O c CIRCUMFLEX l s x;1e a O c CIRCUMFLEX l s x
1EDA;LATg d a O c HORN l ACUTE;1e a O c HORN l ACUTE;1d a O c HORN l GRAVE;1e a O c HORN l GRAVE
1EDE;LATg d a O c HORN l HOOK q;1e a O c HORN l HOOK q;1d a O c HORN l TILDE;1e a O c HORN l TILDE
1EE2;LATg d a O c HORN l s x;1e a O c HORN l s x;1d a U c s x;1e a U c s x;1d a U c HOOK q
1EE7;LATg e a U c HOOK q;1d a U c HORN l ACUTE;1e a U c HORN l ACUTE;1d a U c HORN l GRAVE
1EEB;LATg e a U c HORN l GRAVE;1d a U c HORN l HOOK q;1e a U c HORN l HOOK q;1d a U c HORN l TILDE
1EEF;LATg e a U c HORN l TILDE;1d a U c HORN l s x;1e a U c HORN l s x;1d a Y c GRAVE
1EF3;LATg e a Y c GRAVE;1d a Y c s x;1e a Y c s x;1d a Y c HOOK q;1e a Y c HOOK q;1d a Y c TILDE
1EF9;LATg e a Y c TILDE;1d a MIDDLE-WELSH LL;1e a MIDDLE-WELSH LL;1d a MIDDLE-WELSH V
1EFD;LATg e a MIDDLE-WELSH V;1d a Y c LOOP;1e a Y c LOOP;GREEK e a ALPHA c PSILI;5DASIA
1F02;GREEK e a ALPHA c PSILI l VARIA;5DASIA l VARIA;5PSILI l OXIA;5DASIA l OXIA
1F06;GREEK e a ALPHA c PSILI l PiISPOMENI;5DASIA l PiISPOMENI;1d a ALPHA c PSILI;5DASIA
1F0A;GREEK d a ALPHA c PSILI l VARIA;5DASIA l VARIA;5PSILI l OXIA;5DASIA l OXIA
1F0E;GREEK d a ALPHA c PSILI l PiISPOMENI;5DASIA l PiISPOMENI;1e a EPSILON c PSILI;5DASIA
1F12;GREEK e a EPSILON c PSILI l VARIA;5DASIA l VARIA;5PSILI l OXIA;5DASIA l OXIA
1F18;GREEK d a EPSILON c PSILI;5DASIA;5PSILI l VARIA;5DASIA l VARIA;5PSILI l OXIA;5DASIA l OXIA
1F20;GREEK e a ETA c PSILI;5DASIA;5PSILI l VARIA;5DASIA l VARIA;5PSILI l OXIA;5DASIA l OXIA
1F26;GREEK e a ETA c PSILI l PiISPOMENI;5DASIA l PiISPOMENI;1d a ETA c PSILI;5DASIA;5PSILI l VARIA
1F2B;GREEK d a ETA c DASIA l VARIA;5PSILI l OXIA;5DASIA l OXIA;5PSILI l PiISPOMENI
1F2F;GREEK d a ETA c DASIA l PiISPOMENI;1e a IOTA c PSILI;5DASIA;5PSILI l VARIA;5DASIA l VARIA
1F34;GREEK e a IOTA c PSILI l OXIA;5DASIA l OXIA;5PSILI l PiISPOMENI;5DASIA l PiISPOMENI
1F38;GREEK d a IOTA c PSILI;5DASIA;5PSILI l VARIA;5DASIA l VARIA;5PSILI l OXIA;5DASIA l OXIA
1F3E;GREEK d a IOTA c PSILI l PiISPOMENI;5DASIA l PiISPOMENI;1e a OMICRON c PSILI;5DASIA
1F42;GREEK e a OMICRON c PSILI l VARIA;5DASIA l VARIA;5PSILI l OXIA;5DASIA l OXIA
1F48;GREEK d a OMICRON c PSILI;5DASIA;5PSILI l VARIA;5DASIA l VARIA;5PSILI l OXIA;5DASIA l OXIA
1F50;GREEK e a UPSILON c PSILI;5DASIA;5PSILI l VARIA;5DASIA l VARIA;5PSILI l OXIA;5DASIA l OXIA
1F56;GREEK e a UPSILON c PSILI l PiISPOMENI;5DASIA l PiISPOMENI
1F59;GREEK d a UPSILON c DASIA
1F5B;GREEK d a UPSILON c DASIA l VARIA
1F5D;GREEK d a UPSILON c DASIA l OXIA
1F5F;GREEK d a UPSILON c DASIA l PiISPOMENI;1e a OMEGA c PSILI;5DASIA;5PSILI l VARIA
1F63;GREEK e a OMEGA c DASIA l VARIA;5PSILI l OXIA;5DASIA l OXIA;5PSILI l PiISPOMENI
1F67;GREEK e a OMEGA c DASIA l PiISPOMENI;1d a OMEGA c PSILI;5DASIA;5PSILI l VARIA;5DASIA l VARIA
1F6C;GREEK d a OMEGA c PSILI l OXIA;5DASIA l OXIA;5PSILI l PiISPOMENI;5DASIA l PiISPOMENI
1F70;GREEK e a ALPHA c VARIA;5OXIA;3EPSILON c VARIA;5OXIA;3ETA c VARIA;5OXIA;3IOTA c VARIA;5OXIA
1F78;GREEK e a OMICRON c VARIA;5OXIA;3UPSILON c VARIA;5OXIA;3OMEGA c VARIA;5OXIA
1F80;GREEK e a ALPHA c PSILI l YPOGEGRAMMENI;5DASIA l YPOGEGRAMMENI;5PSILI l VARIA l YPOGEGRAMMENI
1F83;GREEK e a ALPHA c DASIA l VARIA l YPOGEGRAMMENI;5PSILI l OXIA l YPOGEGRAMMENI
1F85;GREEK e a ALPHA c DASIA l OXIA l YPOGEGRAMMENI;5PSILI l PiISPOMENI l YPOGEGRAMMENI
1F87;GREEK e a ALPHA c DASIA l PiISPOMENI l YPOGEGRAMMENI;1d a ALPHA c PSILI l PROSGEGRAMMENI
1F89;GREEK d a ALPHA c DASIA l PROSGEGRAMMENI;5PSILI l VARIA l PROSGEGRAMMENI
1F8B;GREEK d a ALPHA c DASIA l VARIA l PROSGEGRAMMENI;5PSILI l OXIA l PROSGEGRAMMENI
1F8D;GREEK d a ALPHA c DASIA l OXIA l PROSGEGRAMMENI;5PSILI l PiISPOMENI l PROSGEGRAMMENI
1F8F;GREEK d a ALPHA c DASIA l PiISPOMENI l PROSGEGRAMMENI;1e a ETA c PSILI l YPOGEGRAMMENI
1F91;GREEK e a ETA c DASIA l YPOGEGRAMMENI;5PSILI l VARIA l YPOGEGRAMMENI
1F93;GREEK e a ETA c DASIA l VARIA l YPOGEGRAMMENI;5PSILI l OXIA l YPOGEGRAMMENI
1F95;GREEK e a ETA c DASIA l OXIA l YPOGEGRAMMENI;5PSILI l PiISPOMENI l YPOGEGRAMMENI
1F97;GREEK e a ETA c DASIA l PiISPOMENI l YPOGEGRAMMENI;1d a ETA c PSILI l PROSGEGRAMMENI
1F99;GREEK d a ETA c DASIA l PROSGEGRAMMENI;5PSILI l VARIA l PROSGEGRAMMENI
1F9B;GREEK d a ETA c DASIA l VARIA l PROSGEGRAMMENI;5PSILI l OXIA l PROSGEGRAMMENI
1F9D;GREEK d a ETA c DASIA l OXIA l PROSGEGRAMMENI;5PSILI l PiISPOMENI l PROSGEGRAMMENI
1F9F;GREEK d a ETA c DASIA l PiISPOMENI l PROSGEGRAMMENI;1e a OMEGA c PSILI l YPOGEGRAMMENI
1FA1;GREEK e a OMEGA c DASIA l YPOGEGRAMMENI;5PSILI l VARIA l YPOGEGRAMMENI
1FA3;GREEK e a OMEGA c DASIA l VARIA l YPOGEGRAMMENI;5PSILI l OXIA l YPOGEGRAMMENI
1FA5;GREEK e a OMEGA c DASIA l OXIA l YPOGEGRAMMENI;5PSILI l PiISPOMENI l YPOGEGRAMMENI
1FA7;GREEK e a OMEGA c DASIA l PiISPOMENI l YPOGEGRAMMENI;1d a OMEGA c PSILI l PROSGEGRAMMENI
1FA9;GREEK d a OMEGA c DASIA l PROSGEGRAMMENI;5PSILI l VARIA l PROSGEGRAMMENI
1FAB;GREEK d a OMEGA c DASIA l VARIA l PROSGEGRAMMENI;5PSILI l OXIA l PROSGEGRAMMENI
1FAD;GREEK d a OMEGA c DASIA l OXIA l PROSGEGRAMMENI;5PSILI l PiISPOMENI l PROSGEGRAMMENI
1FAF;GREEK d a OMEGA c DASIA l PiISPOMENI l PROSGEGRAMMENI;1e a ALPHA c VRACHY;5MACRON
1FB2;GREEK e a ALPHA c VARIA l YPOGEGRAMMENI;5YPOGEGRAMMENI;5OXIA l YPOGEGRAMMENI
1FB6;GREEK e a ALPHA c PiISPOMENI;6l YPOGEGRAMMENI;1d a ALPHA c VRACHY;5MACRON;5VARIA;5OXIA
1FBC;GREEK d a ALPHA c PROSGEGRAMMENI;1KORONIS;1PROSGEGRAMMENI;1PSILI;1PiISPOMENI
1FC1;GREEK DIALYTIKA l PiISPOMENI;1e a ETA c VARIA l YPOGEGRAMMENI;5YPOGEGRAMMENI
1FC4;GREEK e a ETA c OXIA l YPOGEGRAMMENI
1FC6;GREEK e a ETA c PiISPOMENI;6l YPOGEGRAMMENI;1d a EPSILON c VARIA;5OXIA;3ETA c VARIA;5OXIA
1FCC;GREEK d a ETA c PROSGEGRAMMENI;1PSILI l VARIA;3OXIA;3PiISPOMENI;1e a IOTA c VRACHY;5MACRON
1FD2;GREEK e a IOTA c DIALYTIKA l VARIA;7OXIA
1FD6;GREEK e a IOTA c PiISPOMENI;5DIALYTIKA l PiISPOMENI;1d a IOTA c VRACHY;5MACRON;5VARIA;5OXIA
1FDD;GREEK DASIA l VARIA;3OXIA;3PiISPOMENI;1e a UPSILON c VRACHY;5MACRON;5DIALYTIKA l VARIA;7OXIA
1FE4;GREEK e a RHO c PSILI;5DASIA;3UPSILON c PiISPOMENI;5DIALYTIKA l PiISPOMENI
1FE8;GREEK d a UPSILON c VRACHY;5MACRON;5VARIA;5OXIA;3RHO c DASIA;1DIALYTIKA l VARIA;3OXIA;1VARIA
1FF2;GREEK e a OMEGA c VARIA l YPOGEGRAMMENI;5YPOGEGRAMMENI;5OXIA l YPOGEGRAMMENI
1FF6;GREEK e a OMEGA c PiISPOMENI;6l YPOGEGRAMMENI;1d a OMICRON c VARIA;5OXIA;3OMEGA c VARIA;5OXIA
1FFC;GREEK d a OMEGA c PROSGEGRAMMENI;1OXIA;1DASIA
2000;EN QUAD;EM QUAD;EN SPACE;EM SPACE;THREE-Pi-EM SPACE;FOUR-Pi-EM SPACE;SIX-Pi-EM SPACE
2007;FIGURE SPACE;PUNCTUAv SPACE;THg SPACE;HAIR SPACE;ZiO WIDTH SPACE;2NON-JOgi;2JOgi;p-TO-Rf MARK
200F;Rf-TO-p MARK;HYPHEN;NON-BREAKgG HYPHEN;FIGURE DASH;EN DASH;EM DASH;t BAR;r ViTICAL LgE
2017;r LOW LgE;p SgGLE QUOTAv MARK;Rf SgGLE QUOTAv MARK;SgGLE LOW-9 QUOTAv MARK
201B;SgGLE HIGH-REViSm-9 QUOTAv MARK;p r QUOTAv MARK;Rf r QUOTAv MARK;r LOW-9 QUOTAv MARK
201F;r HIGH-REViSm-9 QUOTAv MARK;DAGGi;r DAGGi;BULLET;TRIANGULAR BULLET;ONE s LEADi;TWO s LEADi
2026;t ELLIPSIS;HYPHENAv POgT;LgE SEPARATOR;PARAGRAPH SEPARATOR;p-TO-Rf EMBmDgG;Rf-TO-p EMBmDgG
202C;POP DIRECvAL jATTgG;p-TO-Rf OViRIDE;Rf-TO-p OViRIDE;Nh NO-BREAK SPACE;Pi MILLE n
2031;Pi TEN THOUSl n;PRIME;r PRIME;TRIPLE PRIME;REViSm PRIME;1r PRIME;1TRIPLE PRIME;CARET
2039;SgGLE p-POgTgG ANGLE QUOTAv MARK;1Rf-POgTgG ANGLE QUOTAv MARK;REFiENCE MARK;r EXCLAMAv MARK
203D;gTiROBANG;OViLgE;UNDiTIE;CHARACTi TIE;CARET gSiv POgT;ASTiISM;HYPHEN BULLET;FRACv SLASH
2045;p SQUARE BRACKET c QUILL;Rf SQUARE BRACKET c QUILL;r QUESv MARK;QUESv EXCLAMAv MARK
2049;EXCLAMAv QUESv MARK;TIRONIAN n ET;REViSm PILCROW n;z pk BULLET;1Rfk BULLET;LOW ASTiISK
204F;REViSm SEMICOLON;CLOSE UP;TWO ASTiISKS ALIGNm ViTICALLY;COMMiCIAL MgUS n;SWUNG DASH
2054;gViTm UNDiTIE;FLOWi PUNCTUAv MARK;THREE s PUNCTUAv;QUADRUPLE PRIME;FOUR s PUNCTUAv
2059;FIVE s PUNCTUAv;TWO s PUNCTUAv;FOUR s MARK;sTm CROSS;TRICOLON;ViTICAL FOUR sS
205F;MmIUM MATHEMATICAL SPACE;WORD JOgi;FUNCv APPLICAv;gVISIBLE TIMES;1SEPARATOR;1PLUS
2066;p-TO-Rf ISOLATE;Rf-TO-p ISOLATE;FIRST STRONG ISOLATE;POP DIRECvAL ISOLATE
206A;gHIBIT SYMMETRIC SWAPPgG;ACTIVATE SYMMETRIC SWAPPgG;gHIBIT ARABIC j SHAPgG
206D;ACTIVATE ARABIC j SHAPgG;NAvAL DIGIT SHAPES;NOMgAL DIGIT SHAPES;SUPiSCRIPT ZiO;1LATg e a I
2074;SUPiSCRIPT FOUR;1FIVE;1SIX;1SEVEN;1Ef;1NgE;1PLUS n;1MgUS;1EQUALS n;1p PARENTHESIS
207E;SUPiSCRIPT Rf PARENTHESIS;1LATg e a N;SUBSCRIPT ZiO;1ONE;1TWO;1THREE;1FOUR;1FIVE;1SIX;1SEVEN
2088;SUBSCRIPT Ef;1NgE;1PLUS n;1MgUS;1EQUALS n;1p PARENTHESIS;1Rf PARENTHESIS
2090;LATg SUBSCRIPT e a A;4E;4O;4X;4SCHWA;4H;4K;4L;4M;4N;4P;4S;4T
20A0;EURO-CURRENCY n;COLON n;CRUZEIRO n;FRENCH FRANC n;LIRA n;MILL n;NAIRA n;PESETA n;RUPEE n
20A9;WON n;NEW SHEQEL n;DONG n;EURO n;KIP n;TUGRIK n;DRACHMA n;GiMAN PENNY n;PESO n;GUARANI n
20B3;AUSTRAL n;HRYVNIA n;CmI n;LIVRE TOURNOIS n;SPESMILO n;TENGE n;gDIAN RUPEE n;TURKISH LIRA n
20BB;NORDIC MARK n;MANAT n;RUBLE n;LARI n;BITCOg n;SOM n
20D0;COMBggG p HARPOON q;1Rf HARPOON q;1LONG ViTICAL LgE OViLAY;1SHORT ViTICAL LgE OViLAY
20D4;COMBggG ANTICLOCKWISE h q;1CLOCKWISE h q;1p h q;1Rf h q;1RgG OViLAY;1CLOCKWISE RgG OViLAY
20DA;COMBggG ANTICLOCKWISE RgG OViLAY;1THREE sS q;1FOUR sS q;1ENCLOSgG CIRCLE;2SQUARE;2DIAMOND
20E0;COMBggG ENCLOSgG CIRCLE BACKSLASH;1p Rf h q;1ENCLOSgG SCREEN;2KEYCAP;2UPWARD POgTgG w
20E5;COMBggG REViSE SOLIDUS OViLAY;1r ViTICAL y OViLAY;1ANNUITY u;1TRIPLE UNDis;1WIDE BRIDGE q
20EA;COMBggG pk h OViLAY;1LONG r SOLIDUS OViLAY;1Rfk HARPOON c BARB DOWNk;1pk HARPOON c BARB DOWNk
20EE;COMBggG p h x;1Rf h x;1ASTiISK q
2100;ACCOUNT OF;ADDRESSm TO THE SUBJECT;r-STRUCK d C;DEGREE CELSIUS;CENTRE LgE u;CARE OF;CADA UNA
2107;EULi CONSTANT;SCRUPLE;DEGREE FAHRENHEIT;SCRIPT e G;1d H;z-a d H;r-STRUCK d H;PLANCK CONSTANT
210F;PLANCK CONSTANT OVi TWO PI;SCRIPT d I;z-a d I;SCRIPT d L;1e L;L B BAR u;r-STRUCK d N;NUMiO n
2117;SOUND RECORDgG COPYRf;SCRIPT d P;r-STRUCK d P;2Q;SCRIPT d R;z-a d R;r-STRUCK d R
211E;PRESCRIPv TAKE;RESPONSE;SiVICE MARK;TELEPHONE n;TRADE MARK n;ViSICLE;r-STRUCK d Z;OUNCE n
2126;OHM n;gViTm OHM n;z-a d Z;TURNm GREEK e a IOTA;KELVg n;ANGSTROM n;SCRIPT d B;z-a d C
212E;ESTIMATm u;SCRIPT e E;1d E;2F;TURNm d F;SCRIPT d M;1e O;ALEF u;BET u;GIMEL u;DALET u
2139;gjAv SOURCE;ROTATm d Q;FACSIMILE n;r-STRUCK e PI;2GAMMA;1d GAMMA;2PI;1N-ARY SUMMAv
2141;TURNm SANS-SiIF d G;3L;REViSm SANS-SiIF d L;TURNm SANS-SiIF d Y;r-STRUCK ITALIC d D;2e D;3E
2148;r-STRUCK ITALIC e I;3J;PROPiTY LgE;TURNm AMPiSl;Pi n;AKTIESELSKAB;TURNm e F
214F;u FOR SAMARITAN SOURCE;VULGAR FRACv ONE SEVENTH;3NgTH;3TENTH;3THIRD;2TWO THIRDS;2ONE FIFTH
2156;VULGAR FRACv TWO FIFTHS;2THREE FIFTHS;2FOUR FIFTHS;2ONE SIXTH;2FIVE SIXTHS;2ONE EfH
215C;VULGAR FRACv THREE EfHS;2FIVE EfHS;2SEVEN EfHS;FRACv NUMiATOR ONE;ROMAN NUMiAL ONE;2TWO
2162;ROMAN NUMiAL THREE;2FOUR;2FIVE;2SIX;2SEVEN;2Ef;2NgE;2TEN;2ELEVEN;2TWELVE;2FIFTY;2ONE HUNDRm
216E;ROMAN NUMiAL FIVE HUNDRm;2ONE THOUSl;e ROMAN NUMiAL ONE;3TWO;3THREE;3FOUR;3FIVE;3SIX;3SEVEN
2177;e ROMAN NUMiAL Ef;3NgE;3TEN;3ELEVEN;3TWELVE;3FIFTY;3ONE HUNDRm;3FIVE HUNDRm;3ONE THOUSl
2180;ROMAN NUMiAL ONE THOUSl C D;2FIVE THOUSl;2TEN THOUSl;2REViSm ONE HUNDRm;LATg e a REViSm C
2185;ROMAN NUMiAL SIX LATE j;2FIFTY EARLY j;3THOUSl;2ONE HUNDRm THOUSl;VULGAR FRACv ZiO THIRDS
218A;TURNm DIGIT TWO;2THREE
2190;pk h;UPk h;Rfk h;DOWNk h;p Rf h;UP DOWN h;NORTH WEST h;1EAST h;SOUTH EAST h;1WEST h;pk h c y
219B;Rfk h c y;pk WAVE h;Rfk WAVE h;pk TWO HEADm h;UPk TWO HEADm h;Rfk TWO HEADm h
21A1;DOWNk TWO HEADm h;pk h c TAIL;Rfk h c TAIL;pk h FROM BAR;UPk h FROM BAR;Rfk h FROM BAR
21A7;DOWNk h FROM BAR;UP DOWN h c BASE;pk h c HOOK;Rfk h c HOOK;pk h c LOOP;Rfk h c LOOP
21AD;p Rf WAVE h;2h c y;DOWNk ZIGZAG h;UPk h c TIP pk;4Rfk;DOWNk h c TIP pk;4Rfk
21B4;Rfk h c CORNi DOWNk;DOWNk h c CORNi pk;ANTICLOCKWISE TOP SEMICIRCLE h
21B7;CLOCKWISE TOP SEMICIRCLE h;NORTH WEST h TO LONG BAR;pk h TO BAR OVi Rfk h TO BAR
21BA;ANTICLOCKWISE OPEN CIRCLE h;CLOCKWISE OPEN CIRCLE h;pk HARPOON c BARB UPk;4DOWNk
21BE;UPk HARPOON c BARB Rfk;4pk;Rfk HARPOON c BARB UPk;4DOWNk;DOWNk HARPOON c BARB Rfk;4pk
21C4;Rfk h OVi pk h;UPk h pk OF DOWNk h;pk h OVi Rfk h;1PAIRm hS;UPk PAIRm hS;Rfk PAIRm hS
21CA;DOWNk PAIRm hS;pk HARPOON OVi Rfk HARPOON;Rfk HARPOON OVi pk HARPOON;pk r h c y;p Rf r h c y
21CF;Rfk r h c y;pk r h;UPk r h;Rfk r h;DOWNk r h;p Rf r h;UP DOWN r h;NORTH WEST r h;1EAST r h
21D8;SOUTH EAST r h;1WEST r h;pk TRIPLE h;Rfk TRIPLE h;pk SQUIGGLE h;Rfk SQUIGGLE h;UPk h c r y
21DF;DOWNk h c r y;pk DASHm h;UPk DASHm h;Rfk DASHm h;DOWNk DASHm h;pk h TO BAR;Rfk h TO BAR
21E6;pk WHITE h;UPk WHITE h;Rfk WHITE h;DOWNk WHITE h;UPk WHITE h FROM BAR;3ON PmESTAL;5c t BAR
21ED;UPk WHITE h ON PmESTAL c ViTICAL BAR;2r h;4ON PmESTAL;Rfk WHITE h FROM WALL
21F1;NORTH WEST h TO CORNi;SOUTH EAST h TO CORNi;UP DOWN WHITE h;Rf h c e CIRCLE
21F5;DOWNk h pk OF UPk h;THREE Rfk hS;pk h c ViTICAL y;Rfk h c ViTICAL y;p Rf h c ViTICAL y
21FA;pk h c r ViTICAL y;Rfk h c r ViTICAL y;p Rf h c r ViTICAL y;pk OPEN-HEADm h;Rfk OPEN-HEADm h
21FF;p Rf OPEN-HEADm h;FOR ALL;COMPLEMENT;PARTIAL DIFFiENTIAL;THiE EXISTS;1DOES NOT EXIST
2205;EMPTY SET;gCREMENT;NABLA;ELEMENT OF;NOT AN ELEMENT OF;e ELEMENT OF;CONTAgS AS MEMBi
220C;DOES NOT CONTAg AS MEMBi;e CONTAgS AS MEMBi;END OF PROOF;N-ARY PRODUCT;1COPRODUCT;1SUMMAv
2212;MgUS n;MgUS-OR-PLUS n;s PLUS;DIVISION SLASH;SET MgUS;ASTiISK OPiATOR;RgG OPiATOR
2219;BULLET OPiATOR;SQUARE ROOT;CUBE ROOT;FOURTH ROOT;PROPORvAL TO;gFgITY;Rf ANGLE;ANGLE
2221;MEASURm ANGLE;SPHiICAL ANGLE;DIVIDES;DOES NOT DIVIDE;PARALLEL TO;NOT PARALLEL TO;LOGICAL l
2228;LOGICAL OR;gTiSECv;UNION;gTEGRAL;r gTEGRAL;TRIPLE gTEGRAL;CONTOUR gTEGRAL;SURFACE gTEGRAL
2230;VOLUME gTEGRAL;CLOCKWISE gTEGRAL;1CONTOUR gTEGRAL;ANTICLOCKWISE CONTOUR gTEGRAL;THiEFORE
2235;BECAUSE;RATIO;PROPORv;s MgUS;EXCESS;GEOMETRIC PROPORv;HOMOTHETIC;TILDE OPiATOR;REViSm TILDE
223E;gViTm LAZY S;SgE WAVE;WREATH PRODUCT;NOT TILDE;MgUS TILDE;ASYMPTOTICALLY EQUAL TO
2244;NOT ASYMPTOTICALLY EQUAL TO;APPROXIMATELY EQUAL TO;1BUT NOT ACTUALLY EQUAL TO
2247;NEITHi APPROXIMATELY NOR ACTUALLY EQUAL TO;ALMOST EQUAL TO;NOT ALMOST EQUAL TO
224A;ALMOST EQUAL OR EQUAL TO;TRIPLE TILDE;ALL EQUAL TO;EQUIVALENT TO;GEOMETRICALLY EQUIVALENT TO
224F;DIFFiENCE BETWEEN;APPROACHES THE LIMIT;GEOMETRICALLY EQUAL TO
2252;APPROXIMATELY EQUAL TO OR THE IMAGE OF;IMAGE OF OR APPROXIMATELY EQUAL TO;COLON EQUALS
2255;EQUALS COLON;RgG g EQUAL TO;1EQUAL TO;CORRESPONDS TO;ESTIMATES;EQUIANGULAR TO;STAR EQUALS
225C;DELTA EQUAL TO;EQUAL TO BY DEFgIv;MEASURm BY;QUESvm EQUAL TO;NOT EQUAL TO;IDENTICAL TO
2262;NOT IDENTICAL TO;STRICTLY EQUIVALENT TO;LESS-THAN OR EQUAL TO;GREATi-THAN OR EQUAL TO
2266;LESS-THAN OVi EQUAL TO;GREATi-THAN OVi EQUAL TO;LESS-THAN BUT NOT EQUAL TO
2269;GREATi-THAN BUT NOT EQUAL TO;MUCH LESS-THAN;1GREATi-THAN;BETWEEN;NOT EQUIVALENT TO;1LESS-THAN
226F;NOT GREATi-THAN;NEITHi LESS-THAN NOR EQUAL TO;1GREATi-THAN NOR EQUAL TO
2272;LESS-THAN OR EQUIVALENT TO;GREATi-THAN OR EQUIVALENT TO;NEITHi LESS-THAN NOR EQUIVALENT TO
2275;NEITHi GREATi-THAN NOR EQUIVALENT TO;LESS-THAN OR GREATi-THAN;GREATi-THAN OR LESS-THAN
2278;NEITHi LESS-THAN NOR GREATi-THAN;1GREATi-THAN NOR LESS-THAN;PRECmES;SUCCEmS
227C;PRECmES OR EQUAL TO;SUCCEmS OR EQUAL TO;PRECmES OR EQUIVALENT TO;SUCCEmS OR EQUIVALENT TO
2280;DOES NOT PRECmE;2SUCCEm;SUBSET OF;SUPiSET OF;NOT A SUBSET OF;2SUPiSET OF
2286;SUBSET OF OR EQUAL TO;SUPiSET OF OR EQUAL TO;NEITHi A SUBSET OF NOR EQUAL TO
2289;NEITHi A SUPiSET OF NOR EQUAL TO;SUBSET OF c NOT EQUAL TO;SUPiSET OF c NOT EQUAL TO;MULTISET
228D;MULTISET MULTIPLICAv;1UNION;SQUARE IMAGE OF;1ORIGgAL OF;1IMAGE OF OR EQUAL TO
2292;SQUARE ORIGgAL OF OR EQUAL TO;1CAP;1CUP;CIRCLm PLUS;1MgUS;1TIMES;1DIVISION SLASH;1s OPiATOR
229A;CIRCLm RgG OPiATOR;1ASTiISK OPiATOR;1EQUALS;1DASH;SQUARm PLUS;1MgUS;1TIMES;1s OPiATOR;Rf TACK
22A3;p TACK;DOWN TACK;UP TACK;ASSiv;MODELS;TRUE;FORCES;TRIPLE ViTICAL BAR Rf TURNSTILE
22AB;r ViTICAL BAR r Rf TURNSTILE;DOES NOT PROVE;NOT TRUE;DOES NOT FORCE
22AF;NEGATm r ViTICAL BAR r Rf TURNSTILE;PRECmES UNDi RELAv;SUCCEmS UNDi RELAv;NORMAL SUBGROUP OF
22B3;CONTAgS AS NORMAL SUBGROUP;NORMAL SUBGROUP OF OR EQUAL TO
22B5;CONTAgS AS NORMAL SUBGROUP OR EQUAL TO;ORIGgAL OF;IMAGE OF;MULTIMAP;HiMITIAN CONJUGATE MATRIX
22BA;gTiCALATE;XOR;Nl;NOR;Rf ANGLE c ARC;1w;N-ARY LOGICAL l;2OR;1gTiSECv;1UNION;DIAMOND OPiATOR
22C5;s OPiATOR;STAR OPiATOR;DIVISION TIMES;BOWTIE;p NORMAL FACTOR SEMIDIRECT PRODUCT
22CA;Rf NORMAL FACTOR SEMIDIRECT PRODUCT;p SEMIDIRECT PRODUCT;Rf SEMIDIRECT PRODUCT
22CD;REViSm TILDE EQUALS;CURLY LOGICAL OR;2l;r SUBSET;1SUPiSET;1gTiSECv;1UNION;PITCHFORK
22D5;EQUAL l PARALLEL TO;LESS-THAN c s;GREATi-THAN c s;ViY MUCH LESS-THAN;2GREATi-THAN
22DA;LESS-THAN EQUAL TO OR GREATi-THAN;GREATi-THAN EQUAL TO OR LESS-THAN;EQUAL TO OR LESS-THAN
22DD;EQUAL TO OR GREATi-THAN;3PRECmES;3SUCCEmS;DOES NOT PRECmE OR EQUAL;2SUCCEm OR EQUAL
22E2;NOT SQUARE IMAGE OF OR EQUAL TO;2ORIGgAL OF OR EQUAL TO;SQUARE IMAGE OF OR NOT EQUAL TO
22E5;SQUARE ORIGgAL OF OR NOT EQUAL TO;LESS-THAN BUT NOT EQUIVALENT TO
22E7;GREATi-THAN BUT NOT EQUIVALENT TO;PRECmES BUT NOT EQUIVALENT TO;SUCCEmS BUT NOT EQUIVALENT TO
22EA;NOT NORMAL SUBGROUP OF;DOES NOT CONTAg AS NORMAL SUBGROUP;NOT NORMAL SUBGROUP OF OR EQUAL TO
22ED;DOES NOT CONTAg AS NORMAL SUBGROUP OR EQUAL;ViTICAL ELLIPSIS;MIDLgE t ELLIPSIS
22F0;UP Rf DIAGONAL ELLIPSIS;DOWN Rf DIAGONAL ELLIPSIS;ELEMENT OF c LONG t y
22F3;ELEMENT OF c ViTICAL BAR AT END OF t y;e ELEMENT OF c ViTICAL BAR AT END OF t y
22F5;ELEMENT OF c s q;3OViBAR;e ELEMENT OF c OViBAR;ELEMENT OF c UNDiBAR;3TWO t yS
22FA;CONTAgS c LONG t y;2ViTICAL BAR AT END OF t y;e CONTAgS c ViTICAL BAR AT END OF t y
22FD;CONTAgS c OViBAR;e CONTAgS c OViBAR;Z NOTAv BAG MEMBiSHIP;DIAMETi n;ELECTRIC h;HOUSE;UP hHEAD
2304;DOWN hHEAD;PROJECTIVE;PiSPECTIVE;WAVY LgE;p CEILgG;Rf CEILgG;p FLOOR;Rf FLOOR;BOTTOM Rf CROP
230D;BOTTOM p CROP;TOP Rf CROP;1p CROP;REViSm NOT n;SQUARE LOZENGE;ARC;SEGMENT;SECTOR
2315;TELEPHONE RECORDi;POSIv gDICATOR;VIEWDATA SQUARE;PLACE OF gTiEST n;TURNm NOT n;WATCH
231B;HOURGLASS;TOP p CORNi;1Rf CORNi;BOTTOM p CORNi;1Rf CORNi;TOP HALF gTEGRAL;BOTTOM HALF gTEGRAL
2322;FROWN;SMILE;UP hHEAD BETWEEN TWO t BARS;OPv KEY;iASE TO THE Rf;X g A RECTANGLE BOX;KEYBOARD
2329;p-POgTgG ANGLE BRACKET;Rf-POgTgG ANGLE BRACKET;iASE TO THE p;BENZENE RgG;CYLgDRICITY
232E;ALL AROUND-PROFILE;SYMMETRY;TOTAL RUNOUT;DIMENSION ORIGg;CONICAL TAPi;SLOPE;COUNTiBORE
2335;COUNTiSgK;APL FUNCvAL u I-BEAM;3SQUISH QUAD;3QUAD EQUAL;4DIVIDE;4DIAMOND;4JOT;4CIRCLE
233D;APL FUNCvAL u CIRCLE STILE;4JOT;3SLASH BAR;3BACKSLASH BAR;3QUAD SLASH;4BACKSLASH;4LESS-THAN
2344;APL FUNCvAL u QUAD GREATi-THAN;3pk VANE;3Rfk VANE;3QUAD pk h;4Rfk h;3CIRCLE BACKSLASH
234A;APL FUNCvAL u DOWN TACK UNDiBAR;3DELTA STILE;3QUAD DOWN CARET;4DELTA;3DOWN TACK JOT;3UPk VANE
2350;APL FUNCvAL u QUAD UPk h;3UP TACK OViBAR;3DEL STILE;3QUAD UP CARET;4DEL;3UP TACK JOT
2356;APL FUNCvAL u DOWNk VANE;3QUAD DOWNk h;3QUOTE UNDiBAR;3DELTA UNDiBAR;3DIAMOND UNDiBAR
235B;APL FUNCvAL u JOT UNDiBAR;3CIRCLE UNDiBAR;3UP SHOE JOT;3QUOTE QUAD;3CIRCLE STAR;3QUAD COLON
2361;APL FUNCvAL u UP TACK DIAiESIS;3DEL DIAiESIS;3STAR DIAiESIS;3JOT DIAiESIS;3CIRCLE DIAiESIS
2366;APL FUNCvAL u DOWN SHOE STILE;3p SHOE STILE;3TILDE DIAiESIS;3GREATi-THAN DIAiESIS;3COMMA BAR
236B;APL FUNCvAL u DEL TILDE;3ZILDE;3STILE TILDE;3SEMICOLON UNDiBAR;3QUAD NOT EQUAL;4QUESv
2371;APL FUNCvAL u DOWN CARET TILDE;3UP CARET TILDE;3IOTA;3RHO;3OMEGA;3ALPHA UNDiBAR
2377;APL FUNCvAL u EPSILON UNDiBAR;3IOTA UNDiBAR;3OMEGA UNDiBAR;3ALPHA;NOT CHECK MARK
237C;Rf ANGLE c DOWNk ZIGZAG h;SHOULDim OPEN BOX;BELL u;ViTICAL LgE c MIDDLE s;gSiv u
2381;CONTgUOUS UNDiLgE u;DISCONTgUOUS UNDiLgE u;EMPHASIS u;COMPOSIv u
2385;WHITE SQUARE c CENTRE ViTICAL LgE;ENTi u;ALTiNATIVE KEY u;HELM u;CIRCLm t BAR c NOTCH;1w DOWN
238B;BROKEN CIRCLE c NORTHWEST h;UNDO u;MONOSTABLE u;HYSTiESIS u;OPEN-CIRCUIT-OUTPUT H-TYPE u
2390;OPEN-CIRCUIT-OUTPUT L-TYPE u;PASSIVE-PULL-DOWN-OUTPUT u;PASSIVE-PULL-UP-OUTPUT u
2393;DIRECT CURRENT u j TWO;SOFTWARE-FUNCv u;APL FUNCvAL u QUAD;DECIMAL SEPARATOR KEY u
2397;PREVIOUS PAGE;NEXT PAGE;PRgT SCREEN u;CLEAR SCREEN u;p PARENTHESIS UPPi HOOK;2EXTENSION
239D;p PARENTHESIS LOWi HOOK;Rf PARENTHESIS UPPi HOOK;2EXTENSION;2LOWi HOOK
23A1;p SQUARE BRACKET UPPi CORNi;3EXTENSION;3LOWi CORNi;Rf SQUARE BRACKET UPPi CORNi;3EXTENSION
23A6;Rf SQUARE BRACKET LOWi CORNi;p CURLY BRACKET UPPi HOOK;3MIDDLE PIECE;3LOWi HOOK
23AA;CURLY BRACKET EXTENSION;Rf CURLY BRACKET UPPi HOOK;3MIDDLE PIECE;3LOWi HOOK;gTEGRAL EXTENSION
23AF;t LgE EXTENSION;UPPi p OR LOWi Rf CURLY BRACKET SECv;1Rf OR LOWi p CURLY BRACKET SECv
23B2;SUMMAv TOP;1BOTTOM;TOP SQUARE BRACKET;BOTTOM SQUARE BRACKET;3OVi TOP SQUARE BRACKET
23B7;RADICAL u BOTTOM;p ViTICAL BOX LgE;Rf ViTICAL BOX LgE;t SCAN LgE-1;2LgE-3;2LgE-7;2LgE-9
23BE;DENTISTRY u Lf ViTICAL l TOP Rf;5BOTTOM Rf;4c CIRCLE;3DOWN l t c CIRCLE;3UP l t c CIRCLE
23C3;DENTISTRY u Lf ViTICAL c w;3DOWN l t c w;3UP l t c w;3ViTICAL l WAVE;3DOWN l t c WAVE
23C8;DENTISTRY u Lf UP l t c WAVE;3DOWN l t;3UP l t;3ViTICAL l TOP p;5BOTTOM p;SQUARE FOOT
23CE;RETURN u;EJECT u;ViTICAL LgE EXTENSION;METRICAL BREVE;1LONG OVi SHORT;1SHORT OVi LONG
23D4;METRICAL LONG OVi TWO SHORTS;1TWO SHORTS OVi LONG;3JOgm;1TRISEME;1TETRASEME;1PENTASEME
23DA;EARTH GROUND;FUSE;TOP PARENTHESIS;BOTTOM PARENTHESIS;TOP CURLY BRACKET;BOTTOM CURLY BRACKET
23E0;TOP TORTOISE SHELL BRACKET;BOTTOM TORTOISE SHELL BRACKET;WHITE TRAPEZIUM;BENZENE RgG c CIRCLE
23E4;STRAfNESS;FLATNESS;AC CURRENT;ELECTRICAL gTiSECv;DECIMAL EXPONENT u;z Rf-POgTgG r w
23EA;z p-POgTgG r w;1UP-POgTgG r w;1DOWN-POgTgG r w;1Rf-POgTgG r w c ViTICAL BAR
23EE;z p-POgTgG r w c ViTICAL BAR;1Rf-POgTgG w c r ViTICAL BAR;ALARM CLOCK;STOPWATCH;TIMi CLOCK
23F3;HOURGLASS c FLOWgG Sl;z MmIUM p-POgTgG w;2Rf-POgTgG w;2UP-POgTgG w;2DOWN-POgTgG w
23F8;r ViTICAL BAR;z SQUARE FOR STOP;1CIRCLE FOR RECORD;POWi u;1ON-OFF u;1ON u;1SLEEP u
23FF;OBSiVi EYE u;u FOR NULL;2START OF HEADgG;4TEXT;2END OF TEXT;4TRANSMISSION;2ENQUIRY
2406;u FOR ACKNOWLmGE;2BELL;2BACKSPACE;2t TABULAv;2LgE FEm;2ViTICAL TABULAv;2j FEm
240D;u FOR CARRIAGE RETURN;2SHIFT OUT;3g;2DATA LgK ESCAPE;2DEVICE CONTROL ONE;4TWO;4THREE;4FOUR
2415;u FOR NEGATIVE ACKNOWLmGE;2SYNCHRONOUS IDLE;2END OF TRANSMISSION BLOCK;2CANCEL;2END OF MmIUM
241A;u FOR SUBSTITUTE;2ESCAPE;2FILE SEPARATOR;2GROUP SEPARATOR;2RECORD SEPARATOR;2UNIT SEPARATOR
2420;u FOR SPACE;2DELETE;BLANK u;OPEN BOX;u FOR NEWLgE;2DELETE j TWO;2SUBSTITUTE j TWO
2440;OCR HOOK;1CHAIR;1FORK;1gViTm FORK;1BELT BUCKLE;1BOW TIE;1BRANCH BANK IDENTIFICAv
2447;OCR AMOUNT OF CHECK;1DASH;1CUSTOMi ACCOUNT NUMBi;1r BACKSLASH
2460;CIRCLm DIGIT ONE;2TWO;2THREE;2FOUR;2FIVE;2SIX;2SEVEN;2Ef;2NgE;1NUMBi TEN;2ELEVEN;2TWELVE
246C;CIRCLm NUMBi THIRTEEN;2FOURTEEN;2FIFTEEN;2SIXTEEN;2SEVENTEEN;2EfEEN;2NgETEEN;2TWENTY
2474;PARENTHESIZm DIGIT ONE;2TWO;2THREE;2FOUR;2FIVE;2SIX;2SEVEN;2Ef;2NgE;1NUMBi TEN;2ELEVEN
247F;PARENTHESIZm NUMBi TWELVE;2THIRTEEN;2FOURTEEN;2FIFTEEN;2SIXTEEN;2SEVENTEEN;2EfEEN;2NgETEEN
2487;PARENTHESIZm NUMBi TWENTY;DIGIT ONE FULL STOP;1TWO FULL STOP;1THREE FULL STOP;1FOUR FULL STOP
248C;DIGIT FIVE FULL STOP;1SIX FULL STOP;1SEVEN FULL STOP;1Ef FULL STOP;1NgE FULL STOP
2491;NUMBi TEN FULL STOP;1ELEVEN FULL STOP;1TWELVE FULL STOP;1THIRTEEN FULL STOP
2495;NUMBi FOURTEEN FULL STOP;1FIFTEEN FULL STOP;1SIXTEEN FULL STOP;1SEVENTEEN FULL STOP
2499;NUMBi EfEEN FULL STOP;1NgETEEN FULL STOP;1TWENTY FULL STOP;PARENTHESIZm LATg e a A;4B;4C;4D
24A0;PARENTHESIZm LATg e a E;4F;4G;4H;4I;4J;4K;4L;4M;4N;4O;4P;4Q;4R;4S;4T;4U;4V;4W;4X;4Y;4Z
24B6;CIRCLm LATg d a A;4B;4C;4D;4E;4F;4G;4H;4I;4J;4K;4L;4M;4N;4O;4P;4Q;4R;4S;4T;4U;4V;4W;4X;4Y;4Z
24D0;CIRCLm LATg e a A;4B;4C;4D;4E;4F;4G;4H;4I;4J;4K;4L;4M;4N;4O;4P;4Q;4R;4S;4T;4U;4V;4W;4X;4Y;4Z
24EA;CIRCLm DIGIT ZiO;NEGATIVE CIRCLm NUMBi ELEVEN;3TWELVE;3THIRTEEN;3FOURTEEN;3FIFTEEN;3SIXTEEN
24F1;NEGATIVE CIRCLm NUMBi SEVENTEEN;3EfEEN;3NgETEEN;3TWENTY;r CIRCLm DIGIT ONE;3TWO;3THREE;3FOUR
24F9;r CIRCLm DIGIT FIVE;3SIX;3SEVEN;3Ef;3NgE;2NUMBi TEN;NEGATIVE CIRCLm DIGIT ZiO
2500;BOX DRAWgGS Lf t;2HEAVY t;2Lf ViTICAL;2HEAVY ViTICAL;2Lf TRIPLE DASH t;2HEAVY TRIPLE DASH t
2506;BOX DRAWgGS Lf TRIPLE DASH ViTICAL;2HEAVY TRIPLE DASH ViTICAL;2Lf QUADRUPLE DASH t
2509;BOX DRAWgGS HEAVY QUADRUPLE DASH t;2Lf QUADRUPLE DASH ViTICAL;2HEAVY QUADRUPLE DASH ViTICAL
250C;BOX DRAWgGS Lf DOWN l Rf;2DOWN Lf l Rf HEAVY;3HEAVY l Rf Lf;2HEAVY DOWN l Rf;2Lf DOWN l p
2511;BOX DRAWgGS DOWN Lf l p HEAVY;3HEAVY l p Lf;2HEAVY DOWN l p;2Lf UP l Rf;2UP Lf l Rf HEAVY
2516;BOX DRAWgGS UP HEAVY l Rf Lf;2HEAVY UP l Rf;2Lf UP l p;2UP Lf l p HEAVY;3HEAVY l p Lf
251B;BOX DRAWgGS HEAVY UP l p;2Lf ViTICAL l Rf;2ViTICAL Lf l Rf HEAVY;2UP HEAVY l Rf DOWN Lf
251F;BOX DRAWgGS DOWN HEAVY l Rf UP Lf;2ViTICAL HEAVY l Rf Lf;2DOWN Lf l Rf UP HEAVY
2522;BOX DRAWgGS UP Lf l Rf DOWN HEAVY;2HEAVY ViTICAL l Rf;2Lf ViTICAL l p;2ViTICAL Lf l p HEAVY
2526;BOX DRAWgGS UP HEAVY l p DOWN Lf;2DOWN HEAVY l p UP Lf;2ViTICAL HEAVY l p Lf
2529;BOX DRAWgGS DOWN Lf l p UP HEAVY;2UP Lf l p DOWN HEAVY;2HEAVY ViTICAL l p;2Lf DOWN l t
252D;BOX DRAWgGS p HEAVY l Rf DOWN Lf;2Rf HEAVY l p DOWN Lf;2DOWN Lf l t HEAVY;3HEAVY l t Lf
2531;BOX DRAWgGS Rf Lf l p DOWN HEAVY;2p Lf l Rf DOWN HEAVY;2HEAVY DOWN l t;2Lf UP l t
2535;BOX DRAWgGS p HEAVY l Rf UP Lf;2Rf HEAVY l p UP Lf;2UP Lf l t HEAVY;3HEAVY l t Lf
2539;BOX DRAWgGS Rf Lf l p UP HEAVY;2p Lf l Rf UP HEAVY;2HEAVY UP l t;2Lf ViTICAL l t
253D;BOX DRAWgGS p HEAVY l Rf ViTICAL Lf;2Rf HEAVY l p ViTICAL Lf;2ViTICAL Lf l t HEAVY
2540;BOX DRAWgGS UP HEAVY l DOWN t Lf;2DOWN HEAVY l UP t Lf;2ViTICAL HEAVY l t Lf
2543;BOX DRAWgGS p UP HEAVY l Rf DOWN Lf;2Rf UP HEAVY l p DOWN Lf;2p DOWN HEAVY l Rf UP Lf
2546;BOX DRAWgGS Rf DOWN HEAVY l p UP Lf;2DOWN Lf l UP t HEAVY;2UP Lf l DOWN t HEAVY
2549;BOX DRAWgGS Rf Lf l p ViTICAL HEAVY;2p Lf l Rf ViTICAL HEAVY;2HEAVY ViTICAL l t;2Lf r DASH t
254D;BOX DRAWgGS HEAVY r DASH t;2Lf r DASH ViTICAL;2HEAVY r DASH ViTICAL;2r t;3ViTICAL
2552;BOX DRAWgGS DOWN SgGLE l Rf r;3r l Rf SgGLE;2r DOWN l Rf;2DOWN SgGLE l p r;3r l p SgGLE
2557;BOX DRAWgGS r DOWN l p;2UP SgGLE l Rf r;3r l Rf SgGLE;2r UP l Rf;2UP SgGLE l p r;3r l p SgGLE
255D;BOX DRAWgGS r UP l p;2ViTICAL SgGLE l Rf r;3r l Rf SgGLE;2r ViTICAL l Rf;2ViTICAL SgGLE l p r
2562;BOX DRAWgGS ViTICAL r l p SgGLE;2r ViTICAL l p;2DOWN SgGLE l t r;3r l t SgGLE;2r DOWN l t
2567;BOX DRAWgGS UP SgGLE l t r;3r l t SgGLE;2r UP l t;2ViTICAL SgGLE l t r;3r l t SgGLE
256C;BOX DRAWgGS r ViTICAL l t;2Lf ARC DOWN l Rf;6p;4UP l p;6Rf;3DIAGONAL UPPi Rf TO LOWi p
2572;BOX DRAWgGS Lf DIAGONAL UPPi p TO LOWi Rf;4CROSS;3p;3UP;3Rf;3DOWN;2HEAVY p;3UP;3Rf;3DOWN
257C;BOX DRAWgGS Lf p l HEAVY Rf;3UP l HEAVY DOWN;2HEAVY p l Lf Rf;3UP l Lf DOWN;UPPi HALF BLOCK
2581;LOWi ONE EfH BLOCK;2QUARTi BLOCK;1THREE EfHS BLOCK;1HALF BLOCK;1FIVE EfHS BLOCK
2586;LOWi THREE QUARTiS BLOCK;1SEVEN EfHS BLOCK;FULL BLOCK;p SEVEN EfHS BLOCK;1THREE QUARTiS BLOCK
258B;p FIVE EfHS BLOCK;1HALF BLOCK;1THREE EfHS BLOCK;1ONE QUARTi BLOCK;2EfH BLOCK;Rf HALF BLOCK
2591;Lf SHADE;MmIUM SHADE;DARK SHADE;UPPi ONE EfH BLOCK;Rf ONE EfH BLOCK;QUADRANT LOWi p;2Rf
2598;QUADRANT UPPi p;3l LOWi p l LOWi Rf;5Rf;4UPPi Rf l LOWi p;8Rf;2Rf;3l LOWi p;6l LOWi Rf
25A0;z SQUARE;WHITE SQUARE;2c ROUNDm CORNiS;2CONTAggG z e SQUARE;SQUARE c t FILL;2ViTICAL FILL
25A6;SQUARE c ORTHOGONAL CROSSHATCH FILL;2UPPi p TO LOWi Rf FILL;3Rf TO LOWi p FILL
25A9;SQUARE c DIAGONAL CROSSHATCH FILL;z e SQUARE;WHITE e SQUARE;z RECTANGLE;WHITE RECTANGLE
25AE;z ViTICAL RECTANGLE;WHITE ViTICAL RECTANGLE;z PARALLELOGRAM;WHITE PARALLELOGRAM;z UP-POgTgG w
25B3;WHITE UP-POgTgG w;z UP-POgTgG e w;WHITE UP-POgTgG e w;z Rf-POgTgG w;WHITE Rf-POgTgG w
25B8;z Rf-POgTgG e w;WHITE Rf-POgTgG e w;z Rf-POgTgG POgTi;WHITE Rf-POgTgG POgTi;z DOWN-POgTgG w
25BD;WHITE DOWN-POgTgG w;z DOWN-POgTgG e w;WHITE DOWN-POgTgG e w;z p-POgTgG w;WHITE p-POgTgG w
25C2;z p-POgTgG e w;WHITE p-POgTgG e w;z p-POgTgG POgTi;WHITE p-POgTgG POgTi;z DIAMOND
25C7;WHITE DIAMOND;2CONTAggG z e DIAMOND;FISHEYE;LOZENGE;WHITE CIRCLE;sTm CIRCLE
25CD;CIRCLE c ViTICAL FILL;BULLSEYE;z CIRCLE;CIRCLE c p HALF z;2Rf HALF z;2LOWi HALF z
25D3;CIRCLE c UPPi HALF z;3Rf QUADRANT z;2ALL BUT UPPi p QUADRANT z;p HALF z CIRCLE
25D7;Rf HALF z CIRCLE;gViSE BULLET;1WHITE CIRCLE;UPPi HALF gViSE WHITE CIRCLE
25DB;LOWi HALF gViSE WHITE CIRCLE;UPPi p QUADRANT CIRCULAR ARC;1Rf QUADRANT CIRCULAR ARC
25DE;LOWi Rf QUADRANT CIRCULAR ARC;1p QUADRANT CIRCULAR ARC;UPPi HALF CIRCLE;LOWi HALF CIRCLE
25E2;z LOWi Rf w;2p w;1UPPi p w;2Rf w;WHITE BULLET;SQUARE c p HALF z;2Rf HALF z
25E9;SQUARE c UPPi p DIAGONAL HALF z;2LOWi Rf DIAGONAL HALF z;WHITE SQUARE c ViTICAL BISECTgG LgE
25EC;WHITE UP-POgTgG w c s;UP-POgTgG w c p HALF z;3Rf HALF z;LARGE CIRCLE
25F0;WHITE SQUARE c UPPi p QUADRANT;3LOWi p QUADRANT;4Rf QUADRANT;3UPPi Rf QUADRANT
25F4;WHITE CIRCLE c UPPi p QUADRANT;3LOWi p QUADRANT;4Rf QUADRANT;3UPPi Rf QUADRANT;UPPi p w;1Rf w
25FA;LOWi p w;WHITE MmIUM SQUARE;z MmIUM SQUARE;WHITE MmIUM e SQUARE;z MmIUM e SQUARE;LOWi Rf w
2600;z SUN c RAYS;CLOUD;UMBRELLA;SNOWMAN;COMET;z STAR;WHITE STAR;LfNgG;THUNDiSTORM;SUN
260A;ASCENDgG NODE;DESCENDgG NODE;CONJUNCv;OPPOSIv;z TELEPHONE;WHITE TELEPHONE;BALLOT BOX;2c CHECK
2612;BALLOT BOX c X;SALTIRE;UMBRELLA c RAg DROPS;HOT BEViAGE;WHITE SHOGI PIECE;z SHOGI PIECE
2618;SHAMROCK;REViSm ROTATm FLORAL HEART BULLET;z p POgTgG gDEX;1Rf POgTgG gDEX
261C;WHITE p POgTgG gDEX;1UP POgTgG gDEX;1Rf POgTgG gDEX;1DOWN POgTgG gDEX;SKULL l CROSSBONES
2621;CAUv n;RADIOACTIVE n;BIOHAZARD n;CADUCEUS;ANKH;ORTHODOX CROSS;CHI RHO;CROSS OF LORRAgE
2629;CROSS OF JiUSALEM;STAR l CRESCENT;FARSI u;ADI SHAKTI;HAMMi l SICKLE;PEACE u;Yg YANG
2630;TRIGRAM FOR HEAVEN;2LAKE;2FIRE;2THUNDi;2WgD;2WATi;2MOUNTAg;2EARTH;WHEEL OF DHARMA
2639;WHITE FROWNgG FACE;1SMILgG FACE;z SMILgG FACE;WHITE SUN c RAYS;FIRST QUARTi MOON
263E;LAST QUARTi MOON;MiCURY;FEMALE n;EARTH;MALE n;JUPITi;SATURN;URANUS;NEPTUNE;PLUTO;ARIES;TAURUS
264A;GEMgI;CANCi;LEO;VIRGO;LIBRA;SCORPIUS;SAGITTARIUS;CAPRICORN;AQUARIUS;PISCES;WHITE CHESS KgG
2655;WHITE CHESS QUEEN;2ROOK;2BISHOP;2KNf;2PAWN;z CHESS KgG;2QUEEN;2ROOK;2BISHOP;2KNf;2PAWN
2660;z SPADE SUIT;WHITE HEART SUIT;1DIAMOND SUIT;z CLUB SUIT;WHITE SPADE SUIT;z HEART SUIT
2666;z DIAMOND SUIT;WHITE CLUB SUIT;HOT SPRgGS;QUARTi NOTE;EfH NOTE;BEAMm EfH NOTES
266C;BEAMm SIXTEENTH NOTES;MUSIC FLAT n;1NATURAL n;1SHARP n;WEST SYRIAC CROSS;EAST SYRIAC CROSS
2672;UNIViSAL RECYCLgG u;RECYCLgG u FOR TYPE-1 PLASTICS;3TYPE-2 PLASTICS;3TYPE-3 PLASTICS
2676;RECYCLgG u FOR TYPE-4 PLASTICS;3TYPE-5 PLASTICS;3TYPE-6 PLASTICS;3TYPE-7 PLASTICS
267A;RECYCLgG u FOR GENiIC MATiIALS;z UNIViSAL RECYCLgG u;RECYCLm PAPi u;PARTIALLY-RECYCLm PAPi u
267E;PiMANENT PAPi n;WHEELCHAIR u;DIE FACE-1;1FACE-2;1FACE-3;1FACE-4;1FACE-5;1FACE-6
2686;WHITE CIRCLE c s Rf;3TWO sS;z CIRCLE c WHITE s Rf;3TWO WHITE sS;MONOGRAM FOR YANG;2Yg
268C;DIGRAM FOR GREATi YANG;2LESSi Yg;3YANG;2GREATi Yg;WHITE FLAG;z FLAG;HAMMi l PICK;ANCHOR
2694;CROSSm SWORDS;STAFF OF AESCULAPIUS;SCALES;ALEMBIC;FLOWi;GEAR;STAFF OF HiMES;ATOM u
269C;FLEUR-DE-LIS;OUTLgm WHITE STAR;THREE LgES CONViGgG Rf;3p;WARNgG n;HIGH VOLTAGE n
26A2;DOUBLm FEMALE n;1MALE n;gTiLOCKm FEMALE l MALE n;MALE l FEMALE n;1c y n;3l MALE l FEMALE n
26A8;ViTICAL MALE c y n;t MALE c y n;MmIUM WHITE CIRCLE;1z CIRCLE;1e WHITE CIRCLE;MARRIAGE u
26AE;DIVORCE u;UNMARRIm PARTNiSHIP u;COFFg;FUNiAL URN;NEUTi;CiES;PALLAS;JUNO;VESTA;CHIRON
26B8;z MOON LILITH;SEXTILE;SEMISEXTILE;QUgCUNX;SESQUIQUADRATE;SOCCi BALL;BASEBALL;SQUARm KEY
26C0;WHITE DRAUGHTS MAN;2KgG;z DRAUGHTS MAN;2KgG;SNOWMAN cOUT SNOW;SUN BEHgD CLOUD;RAg;z SNOWMAN
26C8;THUNDi CLOUD l RAg;TURNm WHITE SHOGI PIECE;1z SHOGI PIECE;WHITE DIAMOND g SQUARE
26CC;CROSSgG LANES;DISABLm CAR;OPHIUCHUS;PICK;CAR SLIDgG;HELMET c WHITE CROSS;CIRCLm CROSSgG LANES
26D3;CHAgS;NO ENTRY;ALTiNATE ONE-WAY p WAY TRAFFIC;z TWO-WAY p WAY TRAFFIC
26D7;WHITE TWO-WAY p WAY TRAFFIC;z p LANE MiGE;WHITE p LANE MiGE;DRIVE SLOW n
26DB;HEAVY WHITE DOWN-POgTgG w;p CLOSm ENTRY;SQUARm SALTIRE
26DE;FALLgG DIAGONAL g WHITE CIRCLE g z SQUARE;z TRUCK;RESTRICTm p ENTRY-1;2ENTRY-2
26E2;ASTRONOMICAL u FOR URANUS;HEAVY CIRCLE c y l TWO sS q;PENTAGRAM;Rf-Hlm gTiLACm PENTAGRAM
26E6;p-Hlm gTiLACm PENTAGRAM;gViTm PENTAGRAM;z CROSS ON SHIELD;SHgTO SHRgE;CHURCH;CASTLE
26EC;HISTORIC SITE;GEAR cOUT HUB;1c HlLES;MAP u FOR LfHOUSE;MOUNTAg;UMBRELLA ON GROUND;FOUNTAg
26F3;FLAG g HOLE;FiRY;SAILBOAT;SQUARE FOUR CORNiS;SKIi;ICE SKATE;PiSON c BALL;TENT;JAPANESE BANK u
26FC;HEADSTONE GRAVEYARD u;FUEL PUMP;CUP ON z SQUARE;WHITE FLAG c t MIDDLE z STRIPE
2700;z SAFETY SCISSORS;UPPi BLADE SCISSORS;z SCISSORS;LOWi BLADE SCISSORS;WHITE SCISSORS
2705;WHITE HEAVY CHECK MARK;TELEPHONE LOCAv n;TAPE DRIVE;AIRPLANE;ENVELOPE;RAISm FIST;1Hl
270C;VICTORY Hl;WRITgG Hl;LOWi Rf PENCIL;PENCIL;UPPi Rf PENCIL;WHITE NIB;z NIB;CHECK MARK
2714;HEAVY CHECK MARK;MULTIPLICAv X;HEAVY MULTIPLICAv X;BALLOT X;HEAVY BALLOT X;OUTLgm GREEK CROSS
271A;HEAVY GREEK CROSS;OPEN CENTRE CROSS;HEAVY OPEN CENTRE CROSS;LATg CROSS
271E;SHADOWm WHITE LATg CROSS;OUTLgm LATg CROSS;MALTESE CROSS;STAR OF DAVID
2722;FOUR TEARDROP-SPOKm ASTiISK;1BALLOON-SPOKm ASTiISK;HEAVY FOUR BALLOON-SPOKm ASTiISK
2725;FOUR CLUB-SPOKm ASTiISK;z FOUR POgTm STAR;WHITE FOUR POgTm STAR;SPARKLES
2729;STRESS OUTLgm WHITE STAR;CIRCLm WHITE STAR;OPEN CENTRE z STAR;z CENTRE WHITE STAR
272D;OUTLgm z STAR;HEAVY OUTLgm z STAR;PgWHEEL STAR;SHADOWm WHITE STAR;HEAVY ASTiISK
2732;OPEN CENTRE ASTiISK;Ef SPOKm ASTiISK;1POgTm z STAR;2PgWHEEL STAR;SIX POgTm z STAR
2737;Ef POgTm RECTILgEAR z STAR;HEAVY Ef POgTm RECTILgEAR z STAR;TWELVE POgTm z STAR
273A;SIXTEEN POgTm ASTiISK;TEARDROP-SPOKm ASTiISK;OPEN CENTRE TEARDROP-SPOKm ASTiISK
273D;HEAVY TEARDROP-SPOKm ASTiISK;SIX PETALLm z l WHITE FLORETTE;z FLORETTE;WHITE FLORETTE
2741;Ef PETALLm OUTLgm z FLORETTE;CIRCLm OPEN CENTRE Ef POgTm STAR
2743;HEAVY TEARDROP-SPOKm PgWHEEL ASTiISK;SNOWFLAKE;Tf TRIFOLIATE SNOWFLAKE
2746;HEAVY CHEVRON SNOWFLAKE;SPARKLE;HEAVY SPARKLE;BALLOON-SPOKm ASTiISK
274A;Ef TEARDROP-SPOKm PROPELLi ASTiISK;HEAVY Ef TEARDROP-SPOKm PROPELLi ASTiISK;CROSS MARK
274D;SHADOWm WHITE CIRCLE;NEGATIVE SQUARm CROSS MARK;LOWi Rf DROP-SHADOWm WHITE SQUARE
2750;UPPi Rf DROP-SHADOWm WHITE SQUARE;LOWi Rf SHADOWm WHITE SQUARE;UPPi Rf SHADOWm WHITE SQUARE
2753;z QUESv MARK ORNAMENT;WHITE QUESv MARK ORNAMENT;1EXCLAMAv MARK ORNAMENT
2756;z DIAMOND MgUS WHITE X;HEAVY EXCLAMAv MARK u;Lf ViTICAL BAR;MmIUM ViTICAL BAR
275A;HEAVY ViTICAL BAR;1SgGLE TURNm COMMA QUOTAv MARK ORNAMENT;2COMMA QUOTAv MARK ORNAMENT
275D;HEAVY r TURNm COMMA QUOTAv MARK ORNAMENT;2COMMA QUOTAv MARK ORNAMENT
275F;HEAVY LOW SgGLE COMMA QUOTAv MARK ORNAMENT;2r COMMA QUOTAv MARK ORNAMENT
2761;CURVm STEM PARAGRAPH n ORNAMENT;HEAVY EXCLAMAv MARK ORNAMENT;1HEART EXCLAMAv MARK ORNAMENT
2764;HEAVY z HEART;ROTATm HEAVY z HEART BULLET;FLORAL HEART;ROTATm FLORAL HEART BULLET
2768;MmIUM p PARENTHESIS ORNAMENT;1Rf PARENTHESIS ORNAMENT;1FLATTENm p PARENTHESIS ORNAMENT
276B;MmIUM FLATTENm Rf PARENTHESIS ORNAMENT;1p-POgTgG ANGLE BRACKET ORNAMENT
276D;MmIUM Rf-POgTgG ANGLE BRACKET ORNAMENT;HEAVY p-POgTgG ANGLE QUOTAv MARK ORNAMENT
276F;HEAVY Rf-POgTgG ANGLE QUOTAv MARK ORNAMENT;1p-POgTgG ANGLE BRACKET ORNAMENT
2771;HEAVY Rf-POgTgG ANGLE BRACKET ORNAMENT;Lf p TORTOISE SHELL BRACKET ORNAMENT
2773;Lf Rf TORTOISE SHELL BRACKET ORNAMENT;MmIUM p CURLY BRACKET ORNAMENT
2775;MmIUM Rf CURLY BRACKET ORNAMENT;DgGBAT NEGATIVE CIRCLm DIGIT ONE;4TWO;4THREE;4FOUR;4FIVE;4SIX
277C;DgGBAT NEGATIVE CIRCLm DIGIT SEVEN;4Ef;4NgE;3NUMBi TEN;1CIRCLm SANS-SiIF DIGIT ONE;4TWO
2782;DgGBAT CIRCLm SANS-SiIF DIGIT THREE;4FOUR;4FIVE;4SIX;4SEVEN;4Ef;4NgE;3NUMBi TEN
278A;DgGBAT NEGATIVE CIRCLm SANS-SiIF DIGIT ONE;5TWO;5THREE;5FOUR;5FIVE;5SIX;5SEVEN;5Ef;5NgE
2793;DgGBAT NEGATIVE CIRCLm SANS-SiIF NUMBi TEN;HEAVY WIDE-HEADm Rfk h;1PLUS n;1MgUS n;1DIVISION n
2798;HEAVY SOUTH EAST h;1Rfk h;1NORTH EAST h;DRAFTgG POgT Rfk h;HEAVY ROUND-TIPPm Rfk h
279D;w-HEADm Rfk h;HEAVY w-HEADm Rfk h;DASHm w-HEADm Rfk h;HEAVY DASHm w-HEADm Rfk h;z Rfk h
27A2;THREE-D TOP-Lfm Rfk hHEAD;1BOTTOM-Lfm Rfk hHEAD;z Rfk hHEAD;HEAVY z CURVm DOWNk l Rfk h
27A6;HEAVY z CURVm UPk l Rfk h;SQUAT z Rfk h;HEAVY CONCAVE-POgTm z Rfk h;Rf-SHADm WHITE Rfk h
27AA;p-SHADm WHITE Rfk h;BACK-TILTm SHADOWm WHITE Rfk h;FRONT-TILTm SHADOWm WHITE Rfk h
27AD;HEAVY LOWi Rf-SHADOWm WHITE Rfk h;1UPPi Rf-SHADOWm WHITE Rfk h
27AF;NOTCHm LOWi Rf-SHADOWm WHITE Rfk h;CURLY LOOP;NOTCHm UPPi Rf-SHADOWm WHITE Rfk h
27B2;CIRCLm HEAVY WHITE Rfk h;WHITE-FEATHim Rfk h;z-FEATHim SOUTH EAST h;1Rfk h;1NORTH EAST h
27B7;HEAVY z-FEATHim SOUTH EAST h;2Rfk h;2NORTH EAST h;TEARDROP-BARBm Rfk h
27BB;HEAVY TEARDROP-SHANKm Rfk h;WmGE-TAILm Rfk h;HEAVY WmGE-TAILm Rfk h;OPEN-OUTLgm Rfk h
27BF;r CURLY LOOP;THREE DIMENSIONAL ANGLE;WHITE w CONTAggG e WHITE w;PiPENDICULAR;OPEN SUBSET
27C4;OPEN SUPiSET;p S-SHAPm BAG DELIMITi;Rf S-SHAPm BAG DELIMITi;OR c s gSIDE
27C8;REViSE SOLIDUS PRECmgG SUBSET;SUPiSET PRECmgG SOLIDUS;ViTICAL BAR c t y
27CB;MATHEMATICAL RISgG DIAGONAL;LONG DIVISION;MATHEMATICAL FALLgG DIAGONAL;SQUARm LOGICAL l;2OR
27D0;WHITE DIAMOND c CENTRm s;l c s;ELEMENT OF OPENgG UPk;LOWi Rf CORNi c s;UPPi p CORNi c s
27D5;p OUTi JOg;Rf OUTi JOg;FULL OUTi JOg;LARGE UP TACK;1DOWN TACK;p l Rf r TURNSTILE;3TACK
27DC;p MULTIMAP;LONG Rf TACK;1p TACK;UP TACK c CIRCLE q;LOZENGE DIVIDm BY t RULE
27E1;WHITE CONCAVE-SIDm DIAMOND;3c pk TICK;4Rfk TICK;1SQUARE c pk TICK;3Rfk TICK
27E6;MATHEMATICAL p WHITE SQUARE BRACKET;1Rf WHITE SQUARE BRACKET;1p ANGLE BRACKET
27E9;MATHEMATICAL Rf ANGLE BRACKET;1p r ANGLE BRACKET;1Rf r ANGLE BRACKET
27EC;MATHEMATICAL p WHITE TORTOISE SHELL BRACKET;1Rf WHITE TORTOISE SHELL BRACKET
27EE;MATHEMATICAL p FLATTENm PARENTHESIS;1Rf FLATTENm PARENTHESIS;UPk QUADRUPLE h
27F1;DOWNk QUADRUPLE h;ANTICLOCKWISE GAPPm CIRCLE h;CLOCKWISE GAPPm CIRCLE h;Rf h c CIRCLm PLUS
27F5;LONG pk h;1Rfk h;1p Rf h;1pk r h;1Rfk r h;1p Rf r h;1pk h FROM BAR;1Rfk h FROM BAR
27FD;LONG pk r h FROM BAR;1Rfk r h FROM BAR;2SQUIGGLE h;BRAILLE PATTiN BLANK;2sS-1;2sS-2;2sS-12
2804;BRAILLE PATTiN sS-3;2sS-13;2sS-23;2sS-123;2sS-4;2sS-14;2sS-24;2sS-124;2sS-34;2sS-134;2sS-234
280F;BRAILLE PATTiN sS-1234;2sS-5;2sS-15;2sS-25;2sS-125;2sS-35;2sS-135;2sS-235;2sS-1235;2sS-45
2819;BRAILLE PATTiN sS-145;2sS-245;2sS-1245;2sS-345;2sS-1345;2sS-2345;2sS-12345;2sS-6;2sS-16
2822;BRAILLE PATTiN sS-26;2sS-126;2sS-36;2sS-136;2sS-236;2sS-1236;2sS-46;2sS-146;2sS-246;2sS-1246
282C;BRAILLE PATTiN sS-346;2sS-1346;2sS-2346;2sS-12346;2sS-56;2sS-156;2sS-256;2sS-1256;2sS-356
2835;BRAILLE PATTiN sS-1356;2sS-2356;2sS-12356;2sS-456;2sS-1456;2sS-2456;2sS-12456;2sS-3456
283D;BRAILLE PATTiN sS-13456;2sS-23456;2sS-123456;2sS-7;2sS-17;2sS-27;2sS-127;2sS-37;2sS-137
2846;BRAILLE PATTiN sS-237;2sS-1237;2sS-47;2sS-147;2sS-247;2sS-1247;2sS-347;2sS-1347;2sS-2347
284F;BRAILLE PATTiN sS-12347;2sS-57;2sS-157;2sS-257;2sS-1257;2sS-357;2sS-1357;2sS-2357;2sS-12357
2858;BRAILLE PATTiN sS-457;2sS-1457;2sS-2457;2sS-12457;2sS-3457;2sS-13457;2sS-23457;2sS-123457
2860;BRAILLE PATTiN sS-67;2sS-167;2sS-267;2sS-1267;2sS-367;2sS-1367;2sS-2367;2sS-12367;2sS-467
2869;BRAILLE PATTiN sS-1467;2sS-2467;2sS-12467;2sS-3467;2sS-13467;2sS-23467;2sS-123467;2sS-567
2871;BRAILLE PATTiN sS-1567;2sS-2567;2sS-12567;2sS-3567;2sS-13567;2sS-23567;2sS-123567;2sS-4567
2879;BRAILLE PATTiN sS-14567;2sS-24567;2sS-124567;2sS-34567;2sS-134567;2sS-234567;2sS-1234567
2880;BRAILLE PATTiN sS-8;2sS-18;2sS-28;2sS-128;2sS-38;2sS-138;2sS-238;2sS-1238;2sS-48;2sS-148
288A;BRAILLE PATTiN sS-248;2sS-1248;2sS-348;2sS-1348;2sS-2348;2sS-12348;2sS-58;2sS-158;2sS-258
2893;BRAILLE PATTiN sS-1258;2sS-358;2sS-1358;2sS-2358;2sS-12358;2sS-458;2sS-1458;2sS-2458
289B;BRAILLE PATTiN sS-12458;2sS-3458;2sS-13458;2sS-23458;2sS-123458;2sS-68;2sS-168;2sS-268
28A3;BRAILLE PATTiN sS-1268;2sS-368;2sS-1368;2sS-2368;2sS-12368;2sS-468;2sS-1468;2sS-2468
28AB;BRAILLE PATTiN sS-12468;2sS-3468;2sS-13468;2sS-23468;2sS-123468;2sS-568;2sS-1568;2sS-2568
28B3;BRAILLE PATTiN sS-12568;2sS-3568;2sS-13568;2sS-23568;2sS-123568;2sS-4568;2sS-14568;2sS-24568
28BB;BRAILLE PATTiN sS-124568;2sS-34568;2sS-134568;2sS-234568;2sS-1234568;2sS-78;2sS-178;2sS-278
28C3;BRAILLE PATTiN sS-1278;2sS-378;2sS-1378;2sS-2378;2sS-12378;2sS-478;2sS-1478;2sS-2478
28CB;BRAILLE PATTiN sS-12478;2sS-3478;2sS-13478;2sS-23478;2sS-123478;2sS-578;2sS-1578;2sS-2578
28D3;BRAILLE PATTiN sS-12578;2sS-3578;2sS-13578;2sS-23578;2sS-123578;2sS-4578;2sS-14578;2sS-24578
28DB;BRAILLE PATTiN sS-124578;2sS-34578;2sS-134578;2sS-234578;2sS-1234578;2sS-678;2sS-1678
28E2;BRAILLE PATTiN sS-2678;2sS-12678;2sS-3678;2sS-13678;2sS-23678;2sS-123678;2sS-4678;2sS-14678
28EA;BRAILLE PATTiN sS-24678;2sS-124678;2sS-34678;2sS-134678;2sS-234678;2sS-1234678;2sS-5678
28F1;BRAILLE PATTiN sS-15678;2sS-25678;2sS-125678;2sS-35678;2sS-135678;2sS-235678;2sS-1235678
28F8;BRAILLE PATTiN sS-45678;2sS-145678;2sS-245678;2sS-1245678;2sS-345678;2sS-1345678;2sS-2345678
28FF;BRAILLE PATTiN sS-12345678;Rfk TWO-HEADm h c ViTICAL y;4r ViTICAL y;pk r h c ViTICAL y
2903;Rfk r h c ViTICAL y;p Rf r h c ViTICAL y;Rfk TWO-HEADm h FROM BAR;pk r h FROM BAR
2907;Rfk r h FROM BAR;DOWNk h c t y;UPk h c t y;1TRIPLE h;DOWNk TRIPLE h;pk r DASH h;Rfk r DASH h
290E;pk TRIPLE DASH h;Rfk TRIPLE DASH h;1TWO-HEADm TRIPLE DASH h;1h c sTm STEM;UPk h TO BAR
2913;DOWNk h TO BAR;Rfk h c TAIL c ViTICAL y;5r ViTICAL y;1TWO-HEADm h c TAIL;5c ViTICAL y
2918;Rfk TWO-HEADm h c TAIL c r ViTICAL y;pk h-TAIL;Rfk h-TAIL;pk r h-TAIL;Rfk r h-TAIL
291D;pk h TO z DIAMOND;Rfk h TO z DIAMOND;pk h FROM BAR TO z DIAMOND;Rfk h FROM BAR TO z DIAMOND
2921;NORTH WEST l SOUTH EAST h;1EAST l SOUTH WEST h;1WEST h c HOOK;1EAST h c HOOK
2925;SOUTH EAST h c HOOK;1WEST h c HOOK;NORTH WEST h l NORTH EAST h;1EAST h l SOUTH EAST h
2929;SOUTH EAST h l SOUTH WEST h;1WEST h l NORTH WEST h;RISgG DIAGONAL CROSSgG FALLgG DIAGONAL
292C;FALLgG DIAGONAL CROSSgG RISgG DIAGONAL;SOUTH EAST h CROSSgG NORTH EAST h
292E;NORTH EAST h CROSSgG SOUTH EAST h;FALLgG DIAGONAL CROSSgG NORTH EAST h
2930;RISgG DIAGONAL CROSSgG SOUTH EAST h;NORTH EAST h CROSSgG NORTH WEST h
2932;NORTH WEST h CROSSgG NORTH EAST h;WAVE h POgTgG DIRECTLY Rf;h POgTgG Rfk THEN CURVgG UPk
2935;h POgTgG Rfk THEN CURVgG DOWNk;2DOWNk THEN CURVgG pk;5Rfk;Rf-SIDE ARC CLOCKWISE h
2939;p-SIDE ARC ANTICLOCKWISE h;TOP ARC ANTICLOCKWISE h;BOTTOM ARC ANTICLOCKWISE h
293C;TOP ARC CLOCKWISE h c MgUS;2ANTICLOCKWISE h c PLUS;LOWi Rf SEMICIRCULAR CLOCKWISE h
293F;LOWi p SEMICIRCULAR ANTICLOCKWISE h;ANTICLOCKWISE CLOSm CIRCLE h;CLOCKWISE CLOSm CIRCLE h
2942;Rfk h q SHORT pk h;pk h q SHORT Rfk h;SHORT Rfk h q pk h;Rfk h c PLUS x;pk h c PLUS x
2947;Rfk h THROUGH X;p Rf h THROUGH e CIRCLE;UPk TWO-HEADm h FROM e CIRCLE
294A;p BARB UP Rf BARB DOWN HARPOON;2DOWN Rf BARB UP HARPOON;UP BARB Rf DOWN BARB p HARPOON
294D;UP BARB p DOWN BARB Rf HARPOON;p BARB UP Rf BARB UP HARPOON;UP BARB Rf DOWN BARB Rf HARPOON
2950;p BARB DOWN Rf BARB DOWN HARPOON;UP BARB p DOWN BARB p HARPOON;pk HARPOON c BARB UP TO BAR
2953;Rfk HARPOON c BARB UP TO BAR;UPk HARPOON c BARB Rf TO BAR;DOWNk HARPOON c BARB Rf TO BAR
2956;pk HARPOON c BARB DOWN TO BAR;Rfk HARPOON c BARB DOWN TO BAR;UPk HARPOON c BARB p TO BAR
2959;DOWNk HARPOON c BARB p TO BAR;pk HARPOON c BARB UP FROM BAR;Rfk HARPOON c BARB UP FROM BAR
295C;UPk HARPOON c BARB Rf FROM BAR;DOWNk HARPOON c BARB Rf FROM BAR
295E;pk HARPOON c BARB DOWN FROM BAR;Rfk HARPOON c BARB DOWN FROM BAR
2960;UPk HARPOON c BARB p FROM BAR;DOWNk HARPOON c BARB p FROM BAR
2962;pk HARPOON c BARB UP q pk HARPOON c BARB DOWN
2963;UPk HARPOON c BARB p BESIDE UPk HARPOON c BARB Rf
2964;Rfk HARPOON c BARB UP q Rfk HARPOON c BARB DOWN
2965;DOWNk HARPOON c BARB p BESIDE DOWNk HARPOON c BARB Rf
2966;pk HARPOON c BARB UP q Rfk HARPOON c BARB UP;4DOWN q Rfk HARPOON c BARB DOWN
2968;Rfk HARPOON c BARB UP q pk HARPOON c BARB UP;4DOWN q pk HARPOON c BARB DOWN
296A;pk HARPOON c BARB UP q LONG DASH;4DOWN x LONG DASH;Rfk HARPOON c BARB UP q LONG DASH
296D;Rfk HARPOON c BARB DOWN x LONG DASH;UPk HARPOON c BARB p BESIDE DOWNk HARPOON c BARB Rf
296F;DOWNk HARPOON c BARB p BESIDE UPk HARPOON c BARB Rf;Rf r h c ROUNDm HEAD;EQUALS n q Rfk h
2972;TILDE OPiATOR q Rfk h;pk h q TILDE OPiATOR;Rfk h q TILDE OPiATOR;3ALMOST EQUAL TO
2976;LESS-THAN q pk h;pk h THROUGH LESS-THAN;GREATi-THAN q Rfk h;SUBSET q Rfk h
297A;pk h THROUGH SUBSET;SUPiSET q pk h;p FISH TAIL;Rf FISH TAIL;UP FISH TAIL;DOWN FISH TAIL
2980;TRIPLE ViTICAL BAR DELIMITi;Z NOTAv SPOT;2TYPE COLON;p WHITE CURLY BRACKET
2984;Rf WHITE CURLY BRACKET;p WHITE PARENTHESIS;Rf WHITE PARENTHESIS;Z NOTAv p IMAGE BRACKET
2988;Z NOTAv Rf IMAGE BRACKET;2p BgDgG BRACKET;2Rf BgDgG BRACKET;p SQUARE BRACKET c UNDiBAR
298C;Rf SQUARE BRACKET c UNDiBAR;p SQUARE BRACKET c TICK g TOP CORNi
298E;Rf SQUARE BRACKET c TICK g BOTTOM CORNi;p SQUARE BRACKET c TICK g BOTTOM CORNi
2990;Rf SQUARE BRACKET c TICK g TOP CORNi;p ANGLE BRACKET c s;Rf ANGLE BRACKET c s
2993;p ARC LESS-THAN BRACKET;Rf ARC GREATi-THAN BRACKET;r p ARC GREATi-THAN BRACKET
2996;r Rf ARC LESS-THAN BRACKET;p z TORTOISE SHELL BRACKET;Rf z TORTOISE SHELL BRACKET;sTm FENCE
299A;ViTICAL ZIGZAG LgE;MEASURm ANGLE OPENgG p;Rf ANGLE VARIANT c SQUARE;MEASURm Rf ANGLE c s
299E;ANGLE c S gSIDE;ACUTE ANGLE;SPHiICAL ANGLE OPENgG p;3UP;TURNm ANGLE;REViSm ANGLE
29A4;ANGLE c UNDiBAR;REViSm ANGLE c UNDiBAR;OBLIQUE ANGLE OPENgG UP;3DOWN
29A8;MEASURm ANGLE c OPEN ARM ENDgG g h POgTgG UP l Rf;9UP l p;9DOWN l Rf;9DOWN l p;9Rf l UP
29AD;MEASURm ANGLE c OPEN ARM ENDgG g h POgTgG p l UP;9Rf l DOWN;9p l DOWN;REViSm EMPTY SET
29B1;EMPTY SET c OViBAR;3e CIRCLE q;3Rf h q;3p h q;CIRCLE c t BAR;CIRCLm ViTICAL BAR;1PARALLEL
29B8;CIRCLm REViSE SOLIDUS;1PiPENDICULAR;CIRCLE DIVIDm BY t BAR l TOP HALF DIVIDm BY ViTICAL BAR
29BB;CIRCLE c SUPiIMPOSm X;CIRCLm ANTICLOCKWISE-ROTATm DIVISION n;UP h THROUGH CIRCLE
29BE;CIRCLm WHITE BULLET;1BULLET;1LESS-THAN;1GREATi-THAN;CIRCLE c e CIRCLE TO THE Rf
29C3;CIRCLE c TWO t yS TO THE Rf;SQUARm RISgG DIAGONAL SLASH;1FALLgG DIAGONAL SLASH;1ASTiISK
29C7;SQUARm e CIRCLE;1SQUARE;TWO JOgm SQUARES;w c s q;2UNDiBAR;S g w;w c SiIFS AT BOTTOM
29CE;Rf w q p w;p w BESIDE ViTICAL BAR;ViTICAL BAR BESIDE Rf w;BOWTIE c p HALF z;2Rf HALF z
29D3;z BOWTIE;TIMES c p HALF z;2Rf HALF z;WHITE HOURGLASS;z HOURGLASS;p WIGGLY FENCE
29D9;Rf WIGGLY FENCE;p r WIGGLY FENCE;Rf r WIGGLY FENCE;gCOMPLETE gFgITY;TIE OVi gFgITY
29DE;gFgITY NEGATm c ViTICAL BAR;r-ENDm MULTIMAP;SQUARE c CONTOURm OUTLgE;gCREASES AS
29E2;SHUFFLE PRODUCT;EQUALS n l SLANTm PARALLEL;5c TILDE q;IDENTICAL TO l SLANTm PARALLEL
29E6;GLEICH STARK;THiMODYNAMIC;DOWN-POgTgG w c p HALF z;3Rf HALF z;z DIAMOND c DOWN h;1LOZENGE
29EC;WHITE CIRCLE c DOWN h;z CIRCLE c DOWN h;iROR-BARRm WHITE SQUARE;1z SQUARE;1WHITE DIAMOND
29F1;iROR-BARRm z DIAMOND;1WHITE CIRCLE;1z CIRCLE;RULE-DELAYm;REViSE SOLIDUS OPiATOR
29F6;SOLIDUS c OViBAR;REViSE SOLIDUS c t y;BIG SOLIDUS;1REViSE SOLIDUS;r PLUS;TRIPLE PLUS
29FC;p-POgTgG CURVm ANGLE BRACKET;Rf-POgTgG CURVm ANGLE BRACKET;TgY;MgY;N-ARY CIRCLm s OPiATOR
2A01;N-ARY CIRCLm PLUS OPiATOR;2TIMES OPiATOR;1UNION OPiATOR c s;4PLUS;1SQUARE gTiSECv OPiATOR
2A06;N-ARY SQUARE UNION OPiATOR;TWO LOGICAL l OPiATOR;2OR OPiATOR;N-ARY TIMES OPiATOR
2A0A;MODULO TWO SUM;SUMMAv c gTEGRAL;QUADRUPLE gTEGRAL OPiATOR;FgITE PART gTEGRAL;gTEGRAL c r y
2A0F;gTEGRAL AViAGE c SLASH;CIRCULAv FUNCv;ANTICLOCKWISE gTEGRAv
2A12;LgE gTEGRAv c RECTANGULAR PATH AROUND POLE;3SEMICIRCULAR PATH AROUND POLE
2A14;LgE gTEGRAv NOT gCLUDgG THE POLE;gTEGRAL AROUND A POgT OPiATOR;QUATiNION gTEGRAL OPiATOR
2A17;gTEGRAL c pk h c HOOK;2TIMES n;2gTiSECv;2UNION;2OViBAR;2UNDiBAR;JOg;LARGE p w OPiATOR
2A1F;Z NOTAv SCHEMA COMPOSIv;3PIPgG;3PROJECv;PLUS n c e CIRCLE q;3CIRCUMFLEX ACCENT q;3TILDE q
2A25;PLUS n c s x;3TILDE x;3SUBSCRIPT TWO;3z w;MgUS n c COMMA q;3s x;3FALLgG sS;3RISgG sS
2A2D;PLUS n g p HALF CIRCLE;3Rf HALF CIRCLE;VECTOR OR CROSS PRODUCT;MULTIPLICAv n c s q;3UNDiBAR
2A32;SEMIDIRECT PRODUCT c BOTTOM CLOSm;SMASH PRODUCT;MULTIPLICAv n g p HALF CIRCLE;3Rf HALF CIRCLE
2A36;CIRCLm MULTIPLICAv n c CIRCUMFLEX ACCENT;MULTIPLICAv n g r CIRCLE;CIRCLm DIVISION n
2A39;PLUS n g w;MgUS n g w;MULTIPLICAv n g w;gTiIOR PRODUCT;RfHl gTiIOR PRODUCT
2A3E;Z NOTAv RELAvAL COMPOSIv;AMALGAMAv OR COPRODUCT;gTiSECv c s;UNION c MgUS n;2OViBAR
2A43;gTiSECv c OViBAR;2LOGICAL l;UNION c LOGICAL OR;1q gTiSECv;gTiSECv q UNION
2A48;UNION q BAR q gTiSECv;gTiSECv q BAR q UNION;UNION BESIDE l JOgm c UNION
2A4B;gTiSECv BESIDE l JOgm c gTiSECv;CLOSm UNION c SiIFS;1gTiSECv c SiIFS;r SQUARE gTiSECv;2UNION
2A50;CLOSm UNION c SiIFS l SMASH PRODUCT;LOGICAL l c s q;1OR c s q;r LOGICAL l;2OR
2A55;TWO gTiSECTgG LOGICAL l;3OR;SLOPgG LARGE OR;2l;LOGICAL OR OViLAPPgG LOGICAL l
2A5A;LOGICAL l c MIDDLE STEM;1OR c MIDDLE STEM;1l c t DASH;1OR c t DASH;1l c r OViBAR;3UNDiBAR
2A60;LOGICAL l c r UNDiBAR;e VEE c UNDiBAR;LOGICAL OR c r OViBAR;4UNDiBAR
2A64;Z NOTAv DOMAg ANTIRESTRICv;2RANGE ANTIRESTRICv;EQUALS n c s x;IDENTICAL c s q
2A68;TRIPLE t BAR c r ViTICAL y;4TRIPLE ViTICAL y;TILDE OPiATOR c s q;3RISgG sS
2A6C;SIMILAR MgUS SIMILAR;CONGRUENT c s q;EQUALS c ASTiISK;ALMOST EQUAL TO c CIRCUMFLEX ACCENT
2A70;APPROXIMATELY EQUAL OR EQUAL TO;EQUALS n q PLUS n;PLUS n q EQUALS n;EQUALS n q TILDE OPiATOR
2A74;r COLON EQUAL;TWO CONSECUTIVE EQUALS nS;THREE CONSECUTIVE EQUALS nS
2A77;EQUALS n c TWO sS q l TWO sS x;EQUIVALENT c FOUR sS q;LESS-THAN c CIRCLE gSIDE
2A7A;GREATi-THAN c CIRCLE gSIDE;LESS-THAN c QUESv MARK q;GREATi-THAN c QUESv MARK q
2A7D;LESS-THAN OR SLANTm EQUAL TO;GREATi-THAN OR SLANTm EQUAL TO
2A7F;LESS-THAN OR SLANTm EQUAL TO c s gSIDE;GREATi-THAN OR SLANTm EQUAL TO c s gSIDE
2A81;LESS-THAN OR SLANTm EQUAL TO c s q;GREATi-THAN OR SLANTm EQUAL TO c s q
2A83;LESS-THAN OR SLANTm EQUAL TO c s q Rf;GREATi-THAN OR SLANTm EQUAL TO c s q p
2A85;LESS-THAN OR APPROXIMATE;GREATi-THAN OR APPROXIMATE;LESS-THAN l SgGLE-LgE NOT EQUAL TO
2A88;GREATi-THAN l SgGLE-LgE NOT EQUAL TO;LESS-THAN l NOT APPROXIMATE
2A8A;GREATi-THAN l NOT APPROXIMATE;LESS-THAN q r-LgE EQUAL q GREATi-THAN
2A8C;GREATi-THAN q r-LgE EQUAL q LESS-THAN;LESS-THAN q SIMILAR OR EQUAL
2A8E;GREATi-THAN q SIMILAR OR EQUAL;LESS-THAN q SIMILAR q GREATi-THAN
2A90;GREATi-THAN q SIMILAR q LESS-THAN;LESS-THAN q GREATi-THAN q r-LgE EQUAL
2A92;GREATi-THAN q LESS-THAN q r-LgE EQUAL;LESS-THAN q SLANTm EQUAL q GREATi-THAN q SLANTm EQUAL
2A94;GREATi-THAN q SLANTm EQUAL q LESS-THAN q SLANTm EQUAL;SLANTm EQUAL TO OR LESS-THAN
2A96;SLANTm EQUAL TO OR GREATi-THAN;4LESS-THAN c s gSIDE;4GREATi-THAN c s gSIDE
2A99;r-LgE EQUAL TO OR LESS-THAN;4GREATi-THAN;1SLANTm EQUAL TO OR LESS-THAN;5GREATi-THAN
2A9D;SIMILAR OR LESS-THAN;2GREATi-THAN;1q LESS-THAN q EQUALS n;2GREATi-THAN q EQUALS n
2AA1;r NESTm LESS-THAN;2GREATi-THAN;2LESS-THAN c UNDiBAR;GREATi-THAN OViLAPPgG LESS-THAN
2AA5;GREATi-THAN BESIDE LESS-THAN;LESS-THAN CLOSm BY CURVE;GREATi-THAN CLOSm BY CURVE
2AA8;LESS-THAN CLOSm BY CURVE q SLANTm EQUAL;GREATi-THAN CLOSm BY CURVE q SLANTm EQUAL;ei THAN
2AAB;LARGi THAN;ei THAN OR EQUAL TO;LARGi THAN OR EQUAL TO;EQUALS n c BUMPY q
2AAF;PRECmES q SgGLE-LgE EQUALS n;SUCCEmS q SgGLE-LgE EQUALS n;PRECmES q SgGLE-LgE NOT EQUAL TO
2AB2;SUCCEmS q SgGLE-LgE NOT EQUAL TO;PRECmES q EQUALS n;SUCCEmS q EQUALS n;PRECmES q NOT EQUAL TO
2AB6;SUCCEmS q NOT EQUAL TO;PRECmES q ALMOST EQUAL TO;SUCCEmS q ALMOST EQUAL TO
2AB9;PRECmES q NOT ALMOST EQUAL TO;SUCCEmS q NOT ALMOST EQUAL TO;r PRECmES;1SUCCEmS;SUBSET c s
2ABE;SUPiSET c s;SUBSET c PLUS n x;SUPiSET c PLUS n x;SUBSET c MULTIPLICAv n x
2AC2;SUPiSET c MULTIPLICAv n x;SUBSET OF OR EQUAL TO c s q;SUPiSET OF OR EQUAL TO c s q
2AC5;SUBSET OF q EQUALS n;SUPiSET OF q EQUALS n;SUBSET OF q TILDE OPiATOR
2AC8;SUPiSET OF q TILDE OPiATOR;SUBSET OF q ALMOST EQUAL TO;SUPiSET OF q ALMOST EQUAL TO
2ACB;SUBSET OF q NOT EQUAL TO;SUPiSET OF q NOT EQUAL TO;SQUARE p OPEN BOX OPiATOR
2ACE;SQUARE Rf OPEN BOX OPiATOR;CLOSm SUBSET;1SUPiSET;1SUBSET OR EQUAL TO;1SUPiSET OR EQUAL TO
2AD3;SUBSET q SUPiSET;SUPiSET q SUBSET;SUBSET q SUBSET;SUPiSET q SUPiSET;1BESIDE SUBSET
2AD8;SUPiSET BESIDE l JOgm BY DASH c SUBSET;ELEMENT OF OPENgG DOWNk;PITCHFORK c TEE TOP
2ADB;TRANSViSAL gTiSECv;FORKgG;NONFORKgG;SHORT p TACK;1DOWN TACK;1UP TACK;PiPENDICULAR c S
2AE2;ViTICAL BAR TRIPLE Rf TURNSTILE;r ViTICAL BAR p TURNSTILE;ViTICAL BAR r p TURNSTILE
2AE5;r ViTICAL BAR r p TURNSTILE;LONG DASH FROM p MEMBi OF r ViTICAL;SHORT DOWN TACK c OViBAR
2AE8;SHORT UP TACK c UNDiBAR;3q SHORT DOWN TACK;r DOWN TACK;1UP TACK;1y NOT n;REViSm r y NOT n
2AEE;DOES NOT DIVIDE c REViSm NEGAv SLASH;ViTICAL LgE c CIRCLE q;4x;DOWN TACK c CIRCLE x
2AF2;PARALLEL c t y;2TILDE OPiATOR;TRIPLE ViTICAL BAR BgARY RELAv;3c t y;1COLON OPiATOR
2AF7;TRIPLE NESTm LESS-THAN;2GREATi-THAN;r-LgE SLANTm LESS-THAN OR EQUAL TO
2AFA;r-LgE SLANTm GREATi-THAN OR EQUAL TO;TRIPLE SOLIDUS BgARY RELAv
2AFC;LARGE TRIPLE ViTICAL BAR OPiATOR;r SOLIDUS OPiATOR;WHITE ViTICAL BAR;N-ARY WHITE ViTICAL BAR
2B00;NORTH EAST WHITE h;1WEST WHITE h;SOUTH EAST WHITE h;1WEST WHITE h;p Rf WHITE h;pk z h;UPk z h
2B07;DOWNk z h;NORTH EAST z h;1WEST z h;SOUTH EAST z h;1WEST z h;p Rf z h;UP DOWN z h
2B0E;Rfk h c TIP DOWNk;4UPk;pk h c TIP DOWNk;4UPk;SQUARE c TOP HALF z;2BOTTOM HALF z
2B14;SQUARE c UPPi Rf DIAGONAL HALF z;2LOWi p DIAGONAL HALF z;DIAMOND c p HALF z;2Rf HALF z
2B18;DIAMOND c TOP HALF z;2BOTTOM HALF z;sTm SQUARE;z LARGE SQUARE;WHITE LARGE SQUARE
2B1D;z ViY e SQUARE;WHITE ViY e SQUARE;z PENTAGON;WHITE PENTAGON;1HEXAGON;z HEXAGON;t z HEXAGON
2B24;z LARGE CIRCLE;1MmIUM DIAMOND;WHITE MmIUM DIAMOND;z MmIUM LOZENGE;WHITE MmIUM LOZENGE
2B29;z e DIAMOND;2LOZENGE;WHITE e LOZENGE;z t ELLIPSE;WHITE t ELLIPSE;z ViTICAL ELLIPSE
2B2F;WHITE ViTICAL ELLIPSE;p h c e CIRCLE;THREE pk hS;p h c CIRCLm PLUS;LONG pk SQUIGGLE h
2B34;pk TWO-HEADm h c ViTICAL y;4r ViTICAL y;3FROM BAR;2TRIPLE DASH h;1h c sTm STEM
2B39;pk h c TAIL c ViTICAL y;5r ViTICAL y;1TWO-HEADm h c TAIL;5c ViTICAL y;6r ViTICAL y
2B3E;pk h THROUGH X;WAVE h POgTgG DIRECTLY p;EQUALS n q pk h;REViSE TILDE OPiATOR q pk h
2B42;pk h q REViSE ALMOST EQUAL TO;Rfk h THROUGH GREATi-THAN;3SUPiSET;pk QUADRUPLE h
2B46;Rfk QUADRUPLE h;REViSE TILDE OPiATOR q Rfk h;Rfk h q REViSE ALMOST EQUAL TO
2B49;TILDE OPiATOR q pk h;pk h q ALMOST EQUAL TO;3REViSE TILDE OPiATOR
2B4C;Rfk h q REViSE TILDE OPiATOR;DOWNk w-HEADm ZIGZAG h;SHORT SLANTm NORTH h;1BACKSLANTm SOUTH h
2B50;WHITE MmIUM STAR;z e STAR;WHITE e STAR;z Rf-POgTgG PENTAGON;WHITE Rf-POgTgG PENTAGON
2B55;HEAVY LARGE CIRCLE;1OVAL c OVAL gSIDE;1CIRCLE c CIRCLE gSIDE;1CIRCLE;1CIRCLm SALTIRE
2B5A;SLANTm NORTH h c HOOKm HEAD;BACKSLANTm SOUTH h c HOOKm TAIL;SLANTm NORTH h c t TAIL
2B5D;BACKSLANTm SOUTH h c t TAIL;BENT h POgTgG DOWNk THEN NORTH EAST
2B5F;SHORT BENT h POgTgG DOWNk THEN NORTH EAST;pk w-HEADm h;UPk w-HEADm h;Rfk w-HEADm h
2B63;DOWNk w-HEADm h;p Rf w-HEADm h;UP DOWN w-HEADm h;NORTH WEST w-HEADm h;1EAST w-HEADm h
2B68;SOUTH EAST w-HEADm h;1WEST w-HEADm h;pk w-HEADm DASHm h;UPk w-HEADm DASHm h
2B6C;Rfk w-HEADm DASHm h;DOWNk w-HEADm DASHm h;CLOCKWISE w-HEADm OPEN CIRCLE h
2B6F;ANTICLOCKWISE w-HEADm OPEN CIRCLE h;pk w-HEADm h TO BAR;UPk w-HEADm h TO BAR
2B72;Rfk w-HEADm h TO BAR;DOWNk w-HEADm h TO BAR
2B76;NORTH WEST w-HEADm h TO BAR;1EAST w-HEADm h TO BAR;SOUTH EAST w-HEADm h TO BAR
2B79;SOUTH WEST w-HEADm h TO BAR;pk w-HEADm h c r t y;UPk w-HEADm h c r t y;Rfk w-HEADm h c r t y
2B7D;DOWNk w-HEADm h c r t y;t TAB KEY;ViTICAL TAB KEY;pk w-HEADm h OVi Rfk w-HEADm h
2B81;UPk w-HEADm h pk OF DOWNk w-HEADm h;Rfk w-HEADm h OVi pk w-HEADm h
2B83;DOWNk w-HEADm h pk OF UPk w-HEADm h;pk w-HEADm PAIRm hS;UPk w-HEADm PAIRm hS
2B86;Rfk w-HEADm PAIRm hS;DOWNk w-HEADm PAIRm hS;pk z CIRCLm WHITE h;UPk z CIRCLm WHITE h
2B8A;Rfk z CIRCLm WHITE h;DOWNk z CIRCLm WHITE h;ANTICLOCKWISE w-HEADm Rf U-SHAPm h
2B8D;ANTICLOCKWISE w-HEADm BOTTOM U-SHAPm h;2p U-SHAPm h;2TOP U-SHAPm h;RETURN p;1Rf;NEWLgE p;1Rf
2B94;FOUR CORNi hS CIRCLgG ANTICLOCKWISE;Rfk z h
2B97;u FOR TYPE A ELECTRONICS;THREE-D TOP-Lfm pk EQUILATiAL hHEAD;1Rf-Lfm UPk EQUILATiAL hHEAD
2B9A;THREE-D TOP-Lfm Rfk EQUILATiAL hHEAD;1p-Lfm DOWNk EQUILATiAL hHEAD;z pk EQUILATiAL hHEAD
2B9D;z UPk EQUILATiAL hHEAD;1Rfk EQUILATiAL hHEAD;1DOWNk EQUILATiAL hHEAD
2BA0;DOWNk w-HEADm h c LONG TIP pk;6Rfk;UPk w-HEADm h c LONG TIP pk;6Rfk
2BA4;pk w-HEADm h c LONG TIP UPk;Rfk w-HEADm h c LONG TIP UPk;pk w-HEADm h c LONG TIP DOWNk
2BA7;Rfk w-HEADm h c LONG TIP DOWNk;z CURVm DOWNk l pk h;4Rfk h;2UPk l pk h;4Rfk h;2pk l UPk h
2BAD;z CURVm Rfk l UPk h;2pk l DOWNk h;2Rfk l DOWNk h;RIBBON h DOWN p;3Rf;2UP p;3Rf;2p UP;2Rf UP
2BB6;RIBBON h p DOWN;2Rf DOWN;UPk WHITE h FROM BAR c t BAR;UP hHEAD g A RECTANGLE BOX
2BBA;OViLAPPgG WHITE SQUARES;2l z SQUARES;1z SQUARES;BALLOT BOX c Lf X;CIRCLm X;1BOLD X
2BC0;z SQUARE CENTRm;1DIAMOND CENTRm;TURNm z PENTAGON;t z OCTAGON;z OCTAGON
2BC5;z MmIUM UP-POgTgG w CENTRm;2DOWN-POgTgG w CENTRm;2p-POgTgG w CENTRm;2Rf-POgTgG w CENTRm
2BC9;NEPTUNE j TWO;TOP HALF z CIRCLE;BOTTOM HALF z CIRCLE;Lf FOUR POgTm z CUSP
2BCD;ROTATm Lf FOUR POgTm z CUSP;WHITE FOUR POgTm CUSP;ROTATm WHITE FOUR POgTm CUSP
2BD0;SQUARE POSIv gDICATOR;UNCiTAgTY n;GROUP MARK;PLUTO j TWO;2THREE;2FOUR;2FIVE;TRANSPLUTO
2BD8;PROSiPgA;ASTRAEA;HYGIEA;PHOLUS;NESSUS;WHITE MOON SELENA;z DIAMOND ON CROSS;TRUE Lf MOON ARTA
2BE0;CUPIDO;HADES;ZEUS;KRONOS;APOLLON;ADMETOS;VULCANUS;POSEIDON;p HALF z STAR;Rf HALF z STAR
2BEA;STAR c p HALF z;2Rf HALF z;pk TWO-HEADm h c w hHEADS;UPk TWO-HEADm h c w hHEADS
2BEE;Rfk TWO-HEADm h c w hHEADS;DOWNk TWO-HEADm h c w hHEADS;iIS j ONE;2TWO;SmNA
2BF3;RUSSIAN ASTROLOGICAL u VIGgTILE;3NOVILE;3QUgTILE;3BgOVILE;3SENTAGON;3TRmECILE
2BF9;EQUALS n c gFgITY x;UNITm u;SEPARATm u;DOUBLm u;PASSm u;REViSm Rf ANGLE;HELLSCHREIBi PAUSE u
2C00;GLAGOLITIC d a AZU;3BUKY;3VmE;3GLAGOLI;3DOBRO;3YESTU;3ZHIVETE;3DZELO;3ZEMLJA;3IZHE
2C0A;GLAGOLITIC d a gITIAL IZHE;3I;3DJiVI;3KAKO;3LJUDIJE;3MYSLITE;3NASHI;3ONU;3POKOJI;3RITSI
2C14;GLAGOLITIC d a SLOVO;3TVRIDO;3UKU;3FRITU;3HiU;3OTU;3PE;3SHTA;3TSI;3CHRIVI;3SHA;3YiU;3YiI
2C21;GLAGOLITIC d a YATI;3SPIDiY HA;3YU;3e YUS;5c TAIL;3YO;3IOTATm e YUS;3BIG YUS;3IOTATm BIG YUS
2C2A;GLAGOLITIC d a FITA;3IZHITSA;3SHTAPIC;3TROKUTASTI A;3LATgATE MYSLITE;3CAUDATE CHRIVI;1e a AZU
2C31;GLAGOLITIC e a BUKY;3VmE;3GLAGOLI;3DOBRO;3YESTU;3ZHIVETE;3DZELO;3ZEMLJA;3IZHE;3gITIAL IZHE;3I
2C3C;GLAGOLITIC e a DJiVI;3KAKO;3LJUDIJE;3MYSLITE;3NASHI;3ONU;3POKOJI;3RITSI;3SLOVO;3TVRIDO;3UKU
2C47;GLAGOLITIC e a FRITU;3HiU;3OTU;3PE;3SHTA;3TSI;3CHRIVI;3SHA;3YiU;3YiI;3YATI;3SPIDiY HA;3YU
2C54;GLAGOLITIC e a e YUS;5c TAIL;3YO;3IOTATm e YUS;3BIG YUS;3IOTATm BIG YUS;3FITA;3IZHITSA
2C5C;GLAGOLITIC e a SHTAPIC;3TROKUTASTI A;3LATgATE MYSLITE;3CAUDATE CHRIVI;LATg d a L c r BAR
2C61;LATg e a L c r BAR;1d a L c MIDDLE TILDE;3P c y;3R c TAIL;1e a A c y;3T c DIAGONAL y
2C67;LATg d a H c DESCENDi;1e a H c DESCENDi;1d a K c DESCENDi;1e a K c DESCENDi;1d a Z c DESCENDi
2C6C;LATg e a Z c DESCENDi;1d a ALPHA;3M c HOOK;3TURNm A;4ALPHA;1e a V c Rf HOOK;1d a W c HOOK
2C73;LATg e a W c HOOK;3V c CURL;1d a HALF H;1e a HALF H;3TAILLESS PHI;3E c NOTCH;3TURNm R c TAIL
2C7A;LATg e a O c LOW RgG gSIDE;1a e d TURNm E;1SUBSCRIPT e a J;MODIFIi a d V
2C7E;LATg d a S c SWASH TAIL;3Z c SWASH TAIL;COPTIC d a ALFA;1e a ALFA;1d a VIDA;1e a VIDA
2C84;COPTIC d a GAMMA;1e a GAMMA;1d a DALDA;1e a DALDA;1d a EIE;1e a EIE;1d a SOU;1e a SOU
2C8C;COPTIC d a ZATA;1e a ZATA;1d a HATE;1e a HATE;1d a THETHE;1e a THETHE;1d a IAUDA;1e a IAUDA
2C94;COPTIC d a KAPA;1e a KAPA;1d a LAULA;1e a LAULA;1d a MI;1e a MI;1d a NI;1e a NI;1d a KSI
2C9D;COPTIC e a KSI;1d a O;1e a O;1d a PI;1e a PI;1d a RO;1e a RO;1d a SIMA;1e a SIMA;1d a TAU
2CA7;COPTIC e a TAU;1d a UA;1e a UA;1d a FI;1e a FI;1d a KHI;1e a KHI;1d a PSI;1e a PSI;1d a OOU
2CB1;COPTIC e a OOU;1d a DIALECT-P ALEF;1e a DIALECT-P ALEF;1d a OLD COPTIC Ag;1e a OLD COPTIC Ag
2CB6;COPTIC d a CRYPTOGRAMMIC EIE;1e a CRYPTOGRAMMIC EIE;1d a DIALECT-P KAPA;1e a DIALECT-P KAPA
2CBA;COPTIC d a DIALECT-P NI;1e a DIALECT-P NI;1d a CRYPTOGRAMMIC NI;1e a CRYPTOGRAMMIC NI
2CBE;COPTIC d a OLD COPTIC OOU;1e a OLD COPTIC OOU;1d a SAMPI;1e a SAMPI;1d a CROSSm SHEI
2CC3;COPTIC e a CROSSm SHEI;1d a OLD COPTIC SHEI;1e a OLD COPTIC SHEI;1d a OLD COPTIC ESH
2CC7;COPTIC e a OLD COPTIC ESH;1d a AKHMIMIC KHEI;1e a AKHMIMIC KHEI;1d a DIALECT-P HORI
2CCB;COPTIC e a DIALECT-P HORI;1d a OLD COPTIC HORI;1e a OLD COPTIC HORI;1d a OLD COPTIC HA
2CCF;COPTIC e a OLD COPTIC HA;1d a L-SHAPm HA;1e a L-SHAPm HA;1d a OLD COPTIC HEI
2CD3;COPTIC e a OLD COPTIC HEI;1d a OLD COPTIC HAT;1e a OLD COPTIC HAT;1d a OLD COPTIC GANGIA
2CD7;COPTIC e a OLD COPTIC GANGIA;1d a OLD COPTIC DJA;1e a OLD COPTIC DJA;1d a OLD COPTIC SHIMA
2CDB;COPTIC e a OLD COPTIC SHIMA;1d a OLD NUBIAN SHIMA;1e a OLD NUBIAN SHIMA;1d a OLD NUBIAN NGI
2CDF;COPTIC e a OLD NUBIAN NGI;1d a OLD NUBIAN NYI;1e a OLD NUBIAN NYI;1d a OLD NUBIAN WAU
2CE3;COPTIC e a OLD NUBIAN WAU;1u KAI;2MI RO;2PI RO;2STAUROS;2TAU RO;2KHI RO;2SHIMA SIMA
2CEB;COPTIC d a CRYPTOGRAMMIC SHEI;1e a CRYPTOGRAMMIC SHEI;1d a CRYPTOGRAMMIC GANGIA
2CEE;COPTIC e a CRYPTOGRAMMIC GANGIA;1COMBggG NI q;2SPIRITUS ASPi;3LENIS;1d a BOHAIRIC KHEI
2CF3;COPTIC e a BOHAIRIC KHEI
2CF9;COPTIC OLD NUBIAN FULL STOP;3DIRECT QUESv MARK;3gDIRECT QUESv MARK;3ViSE DIVIDi
2CFD;COPTIC FRACv ONE HALF;1FULL STOP;1MORPHOLOGICAL DIVIDi;GEORGIAN e a AN;3BAN;3GAN;3DON;3EN;3Vg
2D06;GEORGIAN e a ZEN;3TAN;3g;3KAN;3LAS;3MAN;3NAR;3ON;3PAR;3ZHAR;3RAE;3SAN;3TAR;3UN;3PHAR;3KHAR
2D16;GEORGIAN e a GHAN;3QAR;3SHg;3CHg;3CAN;3JIL;3CIL;3CHAR;3XAN;3JHAN;3HAE;3HE;3HIE;3WE;3HAR;3HOE
2D27;GEORGIAN e a YN
2D2D;GEORGIAN e a AEN
2D30;TIFgAGH a YA;2YAB;2YABH;2YAG;2YAGHH;2BiBi ACADEMY YAJ;2YAJ;2YAD;2YADH;2YADD;2YADDH;2YEY;2YAF
2D3D;TIFgAGH a YAK;2TUAREG YAK;2YAKHH;2YAH;2BiBi ACADEMY YAH;2TUAREG YAH;2YAHH;2YAA;2YAKH
2D46;TIFgAGH a TUAREG YAKH;2YAQ;2TUAREG YAQ;2YI;2YAZH;2AHAGGAR YAZH;2TUAREG YAZH;2YAL;2YAM;2YAN
2D50;TIFgAGH a TUAREG YAGN;3YANG;2YAP;2YU;2YAR;2YARR;2YAGH;2TUAREG YAGH;2AYi YAGH;2YAS;2YASS;2YASH
2D5C;TIFgAGH a YAT;2YATH;2YACH;2YATT;2YAV;2YAW;2YAY;2YAZ;2TAWELLEMET YAZ;2YAZZ;2YE;2YO
2D6F;TIFgAGH MODIFIi a LABIALIZAv MARK;1SEPARATOR MARK
2D7F;TIFgAGH CONSONANT JOgi;ETHIOPIC SYLLABLE LOA;2MOA;2ROA;2SOA;2SHOA;2BOA;2TOA;2COA;2NOA;2NYOA
2D8A;ETHIOPIC SYLLABLE GLOTTAL OA;2ZOA;2DOA;2DDOA;2JOA;2THOA;2CHOA;2PHOA;2POA;2GGWA;2GGWI;2GGWEE
2D96;ETHIOPIC SYLLABLE GGWE
2DA0;ETHIOPIC SYLLABLE SSA;2SSU;2SSI;2SSAA;2SSEE;2SSE;2SSO
2DA8;ETHIOPIC SYLLABLE CCA;2CCU;2CCI;2CCAA;2CCEE;2CCE;2CCO
2DB0;ETHIOPIC SYLLABLE ZZA;2ZZU;2ZZI;2ZZAA;2ZZEE;2ZZE;2ZZO
2DB8;ETHIOPIC SYLLABLE CCHA;2CCHU;2CCHI;2CCHAA;2CCHEE;2CCHE;2CCHO
2DC0;ETHIOPIC SYLLABLE QYA;2QYU;2QYI;2QYAA;2QYEE;2QYE;2QYO
2DC8;ETHIOPIC SYLLABLE KYA;2KYU;2KYI;2KYAA;2KYEE;2KYE;2KYO
2DD0;ETHIOPIC SYLLABLE XYA;2XYU;2XYI;2XYAA;2XYEE;2XYE;2XYO
2DD8;ETHIOPIC SYLLABLE GYA;2GYU;2GYI;2GYAA;2GYEE;2GYE;2GYO
2DE0;COMBggG CYRILLIC a BE;3VE;3GHE;3DE;3ZHE;3ZE;3KA;3EL;3EM;3EN;3O;3PE;3i;3ES;3TE;3HA;3TSE;3CHE
2DF2;COMBggG CYRILLIC a SHA;3SHCHA;3FITA;3ES-TE;3A;3IE;3DJiV;3MONOGRAPH UK;3YAT;3YU;3IOTIFIm A
2DFD;COMBggG CYRILLIC a LITTLE YUS;3BIG YUS;3IOTIFIm BIG YUS;Rf ANGLE SUBSTITUv MARKi
2E01;Rf ANGLE sTm SUBSTITUv MARKi;p SUBSTITUv BRACKET;Rf SUBSTITUv BRACKET;p sTm SUBSTITUv BRACKET
2E05;Rf sTm SUBSTITUv BRACKET;RAISm gTiPOLAv MARKi;1sTm gTiPOLAv MARKi;sTm TRANSPOSIv MARKi
2E09;p TRANSPOSIv BRACKET;Rf TRANSPOSIv BRACKET;RAISm SQUARE;p RAISm OMISSION BRACKET
2E0D;Rf RAISm OMISSION BRACKET;mITORIAL CORONIS;PARAGRAPHOS;FORKm PARAGRAPHOS
2E11;REViSm FORKm PARAGRAPHOS;HYPODIASTOLE;sTm OBELOS;DOWNk ANCORA;UPk ANCORA;sTm Rf-POgTgG ANGLE
2E17;r OBLIQUE HYPHEN;gViTm gTiROBANG;PALM BRANCH;HYPHEN c DIAiESIS;TILDE c RgG q
2E1C;p LOW PARAPHRASE BRACKET;Rf LOW PARAPHRASE BRACKET;TILDE c s q;3x;p ViTICAL BAR c QUILL
2E21;Rf ViTICAL BAR c QUILL;TOP p HALF BRACKET;1Rf HALF BRACKET;BOTTOM p HALF BRACKET
2E25;BOTTOM Rf HALF BRACKET;p SIDEWAYS U BRACKET;Rf SIDEWAYS U BRACKET;p r PARENTHESIS
2E29;Rf r PARENTHESIS;TWO sS OVi ONE s PUNCTUAv;ONE s OVi TWO sS PUNCTUAv;SQUARm FOUR s PUNCTUAv
2E2D;FIVE s MARK;REViSm QUESv MARK;ViTICAL TILDE;RgG POgT;WORD SEPARATOR MIDDLE s;TURNm COMMA
2E33;RAISm s;1COMMA;TURNm SEMICOLON;DAGGi c p GUARD;2Rf GUARD;TURNm DAGGi;TOP HALF SECv n
2E3A;TWO-EM DASH;THREE-EM DASH;STENOGRAPHIC FULL STOP;ViTICAL SIX sS;WIGGLY ViTICAL LgE;CAPITULUM
2E40;r HYPHEN;REViSm COMMA;r LOW-REViSm-9 QUOTAv MARK;DASH c p UPTURN;r SUSPENSION MARK
2E45;gViTm LOW KAVYKA;3c KAVYKA q;LOW KAVYKA;2c s;r STACKm COMMA;sTm SOLIDUS;TRIPLE DAGGi
2E4C;MmIEVAL COMMA;PARAGRAPHUS MARK;PUNCTUS ELEVATUS MARK;CORNISH ViSE DIVIDi
2E50;CROSS PATTY c Rf CROSSBAR;3p CROSSBAR;TIRONIAN n d ET;MmIEVAL EXCLAMAv MARK;1QUESv MARK
2E55;p SQUARE BRACKET c y;Rf SQUARE BRACKET c y;p SQUARE BRACKET c r y;Rf SQUARE BRACKET c r y
2E59;TOP HALF p PARENTHESIS;2Rf PARENTHESIS;BOTTOM HALF p PARENTHESIS;2Rf PARENTHESIS
2E5D;OBLIQUE HYPHEN
2E80;CJK RADICAL REPEAT;2CLIFF;2SECOND ONE;3TWO;3THREE;2PiSON;2BOX;2TABLE;2KNIFE ONE;3TWO;2DIVgAv
2E8B;CJK RADICAL SEAL;2e ONE;3TWO;2LAME ONE;3TWO;3THREE;3FOUR;2SNAKE;2THREAD;2SNOUT ONE;3TWO
2E96;CJK RADICAL HEART ONE;3TWO;2Hl;2RAP
2E9B;CJK RADICAL CHOKE;2SUN;2MOON;2DEATH;2MOTHi;2CIVILIAN;2WATi ONE;3TWO;2FIRE;2PAW ONE;3TWO
2EA6;CJK RADICAL SIMPLIFIm HALF TREE TRUNK;2COW;2DOG;2JADE;2BOLT OF CLOTH;2EYE;2SPIRIT ONE;3TWO
2EAE;CJK RADICAL BAMBOO;2SILK;2C-SIMPLIFIm SILK;2NET ONE;3TWO;3THREE;3FOUR;2MESH;2SHEEP;2RAM;2EWE
2EB9;CJK RADICAL OLD;2BRUSH ONE;3TWO;2MEAT;2MORTAR;2GRASS ONE;3TWO;3THREE;2TIGi;2CLOTHES;2WEST ONE
2EC4;CJK RADICAL WEST TWO;2C-SIMPLIFIm SEE;2SIMPLIFIm HORN;2HORN;2C-SIMPLIFIm SPEECH;3SHELL;2FOOT
2ECB;CJK RADICAL C-SIMPLIFIm CART;2SIMPLIFIm WALK;2WALK ONE;3TWO;2CITY;2C-SIMPLIFIm GOLD;2LONG ONE
2ED2;CJK RADICAL LONG TWO;2C-SIMPLIFIm LONG;3GATE;2MOUND ONE;3TWO;2RAg;2BLUE
2ED9;CJK RADICAL C-SIMPLIFIm TANNm LEATHi;3LEAF;3WgD;3FLY;2EAT ONE;3TWO;3THREE;2C-SIMPLIFIm EAT
2EE1;CJK RADICAL HEAD;2C-SIMPLIFIm HORSE;2BONE;2GHOST;2C-SIMPLIFIm FISH;3BIRD;3SALT
2EE8;CJK RADICAL SIMPLIFIm WHEAT;3YELLOW;2C-SIMPLIFIm FROG;2J-SIMPLIFIm EVEN;2C-SIMPLIFIm EVEN
2EED;CJK RADICAL J-SIMPLIFIm TOOTH;2C-SIMPLIFIm TOOTH;2J-SIMPLIFIm DRAGON;2C-SIMPLIFIm DRAGON
2EF1;CJK RADICAL TURTLE;2J-SIMPLIFIm TURTLE;2C-SIMPLIFIm TURTLE
2F00;KANGXI RADICAL ONE;2LgE;2s;2SLASH;2SECOND;2HOOK;2TWO;2LID;2MAN;2LEGS;2ENTi;2Ef;2DOWN BOX
2F0D;KANGXI RADICAL COVi;2ICE;2TABLE;2OPEN BOX;2KNIFE;2POWi;2WRAP;2SPOON;2Rf OPEN BOX
2F16;KANGXI RADICAL HIDgG ENCLOSURE;2TEN;2DIVgAv;2SEAL;2CLIFF;2PRIVATE;2AGAg;2MOUTH;2ENCLOSURE
2F1F;KANGXI RADICAL EARTH;2SCHOLAR;2GO;3SLOWLY;2EVENgG;2BIG;2WOMAN;2CHILD;2ROOF;2gCH;2e;2LAME
2F2B;KANGXI RADICAL CORPSE;2SPROUT;2MOUNTAg;2RIVi;2WORK;2ONESELF;2TURBAN;2DRY;2SHORT THREAD
2F34;KANGXI RADICAL sTm CLIFF;2LONG STRIDE;2TWO HlS;2SHOOT;2BOW;2SNOUT;2BRISTLE;2STEP;2HEART
2F3D;KANGXI RADICAL HALBiD;2DOOR;2Hl;2BRANCH;2RAP;2SCRIPT;2DIPPi;2AXE;2SQUARE;2NOT;2SUN;2SAY;2MOON
2F4A;KANGXI RADICAL TREE;2LACK;2STOP;2DEATH;2WEAPON;2DO NOT;2COMPARE;2FUR;2CLAN;2STEAM;2WATi;2FIRE
2F56;KANGXI RADICAL CLAW;2FATHi;2r X;2HALF TREE TRUNK;2SLICE;2FANG;2COW;2DOG;2PROFOUND;2JADE
2F60;KANGXI RADICAL MELON;2TILE;2SWEET;2LIFE;2USE;2FIELD;2BOLT OF CLOTH;2SICKNESS;2sTm TENT;2WHITE
2F6A;KANGXI RADICAL SKg;2DISH;2EYE;2SPEAR;2h;2STONE;2SPIRIT;2TRACK;2GRAg;2CAVE;2STl;2BAMBOO;2RICE
2F77;KANGXI RADICAL SILK;2JAR;2NET;2SHEEP;2FEATHi;2OLD;2l;2PLOW;2EAR;2BRUSH;2MEAT;2MgISTi;2SELF
2F84;KANGXI RADICAL ARRIVE;2MORTAR;2TONGUE;2OPPOSE;2BOAT;2STOPPgG;2COLOR;2GRASS;2TIGi;2gSECT
2F8E;KANGXI RADICAL BLOOD;2WALK ENCLOSURE;2CLOTHES;2WEST;2SEE;2HORN;2SPEECH;2VALLEY;2BEAN;2PIG
2F98;KANGXI RADICAL BADGi;2SHELL;2Rm;2RUN;2FOOT;2BODY;2CART;2BITTi;2MORNgG;2WALK;2CITY;2WgE
2FA4;KANGXI RADICAL DISTgGUISH;2VILLAGE;2GOLD;2LONG;2GATE;2MOUND;2SLAVE;2SHORT TAILm BIRD;2RAg
2FAD;KANGXI RADICAL BLUE;2WRONG;2FACE;2LEATHi;2TANNm LEATHi;2LEEK;2SOUND;2LEAF;2WgD;2FLY;2EAT
2FB8;KANGXI RADICAL HEAD;2FRAGRANT;2HORSE;2BONE;2TALL;2HAIR;2Ff;2SACRIFICIAL WgE;2CAULDRON;2GHOST
2FC2;KANGXI RADICAL FISH;2BIRD;2SALT;2DEi;2WHEAT;2HEMP;2YELLOW;2MILLET;2z;2EMBROIDiY;2FROG;2TRIPOD
2FCE;KANGXI RADICAL DRUM;2RAT;2NOSE;2EVEN;2TOOTH;2DRAGON;2TURTLE;2FLUTE
2FF0;IDEOGRAPHIC DESCRIPv CHARACTi p TO Rf;3q TO x;3p TO MIDDLE l Rf;3q TO MIDDLE l x
2FF4;IDEOGRAPHIC DESCRIPv CHARACTi FULL SURROUND;3SURROUND FROM q;5x;5p;5UPPi p;6Rf;5LOWi p
2FFB;IDEOGRAPHIC DESCRIPv CHARACTi OViLAID
3000;IDEOGRAPHIC SPACE;1COMMA;1FULL STOP;DITTO MARK;JAPANESE gDUSTRIAL STlARD u
3005;IDEOGRAPHIC ITiAv MARK;1CLOSgG MARK;1NUMBi ZiO;p ANGLE BRACKET;Rf ANGLE BRACKET
300A;p r ANGLE BRACKET;Rf r ANGLE BRACKET;p CORNi BRACKET;Rf CORNi BRACKET;p WHITE CORNi BRACKET
300F;Rf WHITE CORNi BRACKET;p z LENTICULAR BRACKET;Rf z LENTICULAR BRACKET;POSTAL MARK;GETA MARK
3014;p TORTOISE SHELL BRACKET;Rf TORTOISE SHELL BRACKET;p WHITE LENTICULAR BRACKET
3017;Rf WHITE LENTICULAR BRACKET;p WHITE TORTOISE SHELL BRACKET;Rf WHITE TORTOISE SHELL BRACKET
301A;p WHITE SQUARE BRACKET;Rf WHITE SQUARE BRACKET;WAVE DASH;REViSm r PRIME QUOTAv MARK
301E;r PRIME QUOTAv MARK;LOW r PRIME QUOTAv MARK;POSTAL MARK FACE;HANGZHOU NUMiAL ONE;2TWO;2THREE
3024;HANGZHOU NUMiAL FOUR;2FIVE;2SIX;2SEVEN;2Ef;2NgE;IDEOGRAPHIC LEVEL TONE MARK;1RISgG TONE MARK
302C;IDEOGRAPHIC DEPARTgG TONE MARK;1ENTigG TONE MARK;HANGUL SgGLE s TONE MARK;1r s TONE MARK
3030;WAVY DASH;ViTICAL KANA REPEAT MARK;3c VOICm SOUND MARK;3MARK UPPi HALF
3034;ViTICAL KANA REPEAT c VOICm SOUND MARK UPPi HALF;3MARK LOWi HALF;CIRCLm POSTAL MARK
3037;IDEOGRAPHIC TELEGRAPH LgE FEm SEPARATOR u;HANGZHOU NUMiAL TEN;2TWENTY;2THIRTY
303B;ViTICAL IDEOGRAPHIC ITiAv MARK;MASU MARK;PART ALTiNAv MARK;IDEOGRAPHIC VARIAv gDICATOR
303F;IDEOGRAPHIC HALF FILL SPACE
3041;HIRAGANA a e A;2A;2e I;2I;2e U;2U;2e E;2E;2e O;2O;2KA;2GA;2KI;2GI;2KU;2GU;2KE;2GE;2KO;2GO;2SA
3056;HIRAGANA a ZA;2SI;2ZI;2SU;2ZU;2SE;2ZE;2SO;2ZO;2TA;2DA;2TI;2DI;2e TU;2TU;2DU;2TE;2DE;2TO;2DO
306A;HIRAGANA a NA;2NI;2NU;2NE;2NO;2HA;2BA;2PA;2HI;2BI;2PI;2HU;2BU;2PU;2HE;2BE;2PE;2HO;2BO;2PO;2MA
307F;HIRAGANA a MI;2MU;2ME;2MO;2e YA;2YA;2e YU;2YU;2e YO;2YO;2RA;2RI;2RU;2RE;2RO;2e WA;2WA;2WI;2WE
3092;HIRAGANA a WO;2N;2VU;2e KA;3KE
3099;COMBggG KATAKANA-HIRAGANA VOICm SOUND MARK;2SEMI-VOICm SOUND MARK
309B;KATAKANA-HIRAGANA VOICm SOUND MARK;1SEMI-VOICm SOUND MARK;HIRAGANA ITiAv MARK
309E;HIRAGANA VOICm ITiAv MARK;1DIGRAPH YORI;KATAKANA-HIRAGANA r HYPHEN;KATAKANA a e A;2A;2e I;2I
30A5;KATAKANA a e U;2U;2e E;2E;2e O;2O;2KA;2GA;2KI;2GI;2KU;2GU;2KE;2GE;2KO;2GO;2SA;2ZA;2SI;2ZI;2SU
30BA;KATAKANA a ZU;2SE;2ZE;2SO;2ZO;2TA;2DA;2TI;2DI;2e TU;2TU;2DU;2TE;2DE;2TO;2DO;2NA;2NI;2NU;2NE
30CE;KATAKANA a NO;2HA;2BA;2PA;2HI;2BI;2PI;2HU;2BU;2PU;2HE;2BE;2PE;2HO;2BO;2PO;2MA;2MI;2MU;2ME;2MO
30E3;KATAKANA a e YA;2YA;2e YU;2YU;2e YO;2YO;2RA;2RI;2RU;2RE;2RO;2e WA;2WA;2WI;2WE;2WO;2N;2VU
30F5;KATAKANA a e KA;3KE;2VA;2VI;2VE;2VO;1MIDDLE s;KATAKANA-HIRAGANA PROLONGm SOUND MARK
30FD;KATAKANA ITiAv MARK;1VOICm ITiAv MARK;1DIGRAPH KOTO
3105;BOPOMOFO a B;2P;2M;2F;2D;2T;2N;2L;2G;2K;2H;2J;2Q;2X;2ZH;2CH;2SH;2R;2Z;2C;2S;2A;2O;2E;2EH;2AI
311F;BOPOMOFO a EI;2AU;2OU;2AN;2EN;2ANG;2ENG;2i;2I;2U;2IU;2V;2NG;2GN;2IH;2O c s q;2NN
3131;HANGUL a KIYEOK;2SSANGKIYEOK;2KIYEOK-SIOS;2NIEUN;2NIEUN-CIEUC;2NIEUN-HIEUH;2TIKEUT
3138;HANGUL a SSANGTIKEUT;2RIEUL;2RIEUL-KIYEOK;2RIEUL-MIEUM;2RIEUL-PIEUP;2RIEUL-SIOS
313E;HANGUL a RIEUL-THIEUTH;2RIEUL-PHIEUPH;2RIEUL-HIEUH;2MIEUM;2PIEUP;2SSANGPIEUP;2PIEUP-SIOS
3145;HANGUL a SIOS;2SSANGSIOS;2IEUNG;2CIEUC;2SSANGCIEUC;2CHIEUCH;2KHIEUKH;2THIEUTH;2PHIEUPH;2HIEUH
314F;HANGUL a A;2AE;2YA;2YAE;2EO;2E;2YEO;2YE;2O;2WA;2WAE;2OE;2YO;2U;2WEO;2WE;2WI;2YU;2EU;2YI;2I
3164;HANGUL FILLi;1a SSANGNIEUN;2NIEUN-TIKEUT;2NIEUN-SIOS;2NIEUN-PANSIOS;2RIEUL-KIYEOK-SIOS
316A;HANGUL a RIEUL-TIKEUT;2RIEUL-PIEUP-SIOS;2RIEUL-PANSIOS;2RIEUL-YEORgHIEUH;2MIEUM-PIEUP
316F;HANGUL a MIEUM-SIOS;2MIEUM-PANSIOS;2KAPYEOUNMIEUM;2PIEUP-KIYEOK;2PIEUP-TIKEUT
3174;HANGUL a PIEUP-SIOS-KIYEOK;2PIEUP-SIOS-TIKEUT;2PIEUP-CIEUC;2PIEUP-THIEUTH;2KAPYEOUNPIEUP
3179;HANGUL a KAPYEOUNSSANGPIEUP;2SIOS-KIYEOK;2SIOS-NIEUN;2SIOS-TIKEUT;2SIOS-PIEUP;2SIOS-CIEUC
317F;HANGUL a PANSIOS;2SSANGIEUNG;2YESIEUNG;2YESIEUNG-SIOS;2YESIEUNG-PANSIOS;2KAPYEOUNPHIEUPH
3185;HANGUL a SSANGHIEUH;2YEORgHIEUH;2YO-YA;2YO-YAE;2YO-I;2YU-YEO;2YU-YE;2YU-I;2ARAEA;2ARAEAE
3190;IDEOGRAPHIC ANNOTAv LgKgG MARK;2REViSE MARK;2ONE MARK;2TWO MARK;2THREE MARK;2FOUR MARK
3196;IDEOGRAPHIC ANNOTAv TOP MARK;2MIDDLE MARK;2BOTTOM MARK;2FIRST MARK;2SECOND MARK;2THIRD MARK
319C;IDEOGRAPHIC ANNOTAv FOURTH MARK;2HEAVEN MARK;2EARTH MARK;2MAN MARK;BOPOMOFO a BU;2ZI;2JI;2GU
31A4;BOPOMOFO a EE;2ENN;2OO;2ONN;2IR;2ANN;2gN;2UNN;2IM;2NGG;2AgN;2AUNN;2AM;2OM;2ONG;2gNN;1FgAL a P
31B5;BOPOMOFO FgAL a T;3K;3H;1a GH;2LH;2ZY;1FgAL a G;1a GW;2KW;2OE;2AH;CJK y T;2WG;2XG;2BXG;2SW
31C5;CJK y HZZ;2HZG;2HP;2HZWG;2SZWG;2HZT;2HZZP;2HPWG;2HZW;2HZZZ;2N;2H;2S;2P;2SP;2D;2HZ;2HG;2SZ
31D8;CJK y SWZ;2ST;2SG;2PD;2PZ;2TN;2SZZ;2SWG;2HXWG;2HZZZG;2PG;2Q
31F0;KATAKANA a e KU;3SI;3SU;3TO;3NU;3HA;3HI;3HU;3HE;3HO;3MU;3RA;3RI;3RU;3RE;3RO
3200;PARENTHESIZm HANGUL KIYEOK;2NIEUN;2TIKEUT;2RIEUL;2MIEUM;2PIEUP;2SIOS;2IEUNG;2CIEUC;2CHIEUCH
320A;PARENTHESIZm HANGUL KHIEUKH;2THIEUTH;2PHIEUPH;2HIEUH;2KIYEOK A;2NIEUN A;2TIKEUT A;2RIEUL A
3212;PARENTHESIZm HANGUL MIEUM A;2PIEUP A;2SIOS A;2IEUNG A;2CIEUC A;2CHIEUCH A;2KHIEUKH A
3219;PARENTHESIZm HANGUL THIEUTH A;2PHIEUPH A;2HIEUH A;2CIEUC U;1KOREAN CHARACTi OJEON;3O HU
3220;PARENTHESIZm IDEOGRAPH ONE;2TWO;2THREE;2FOUR;2FIVE;2SIX;2SEVEN;2Ef;2NgE;2TEN;2MOON;2FIRE
322C;PARENTHESIZm IDEOGRAPH WATi;2WOOD;2METAL;2EARTH;2SUN;2STOCK;2HAVE;2SOCIETY;2NAME;2SPECIAL
3236;PARENTHESIZm IDEOGRAPH FgANCIAL;2CONGRATULAv;2LABOR;2REPRESENT;2CALL;2STUDY;2SUPiVISE
323D;PARENTHESIZm IDEOGRAPH ENTiPRISE;2RESOURCE;2ALLIANCE;2FESTIVAL;2REST;2SELF;2REACH
3244;CIRCLm IDEOGRAPH QUESv;2KgDiGARTEN;2SCHOOL;2KOTO;1NUMBi TEN ON z SQUARE;2TWENTY ON z SQUARE
324A;CIRCLm NUMBi THIRTY ON z SQUARE;2FORTY ON z SQUARE;2FIFTY ON z SQUARE;2SIXTY ON z SQUARE
324E;CIRCLm NUMBi SEVENTY ON z SQUARE;2EfY ON z SQUARE;PARTNiSHIP n;CIRCLm NUMBi TWENTY ONE;3TWO
3253;CIRCLm NUMBi TWENTY THREE;3FOUR;3FIVE;3SIX;3SEVEN;3Ef;3NgE;2THIRTY;3ONE;3TWO;3THREE;3FOUR
325F;CIRCLm NUMBi THIRTY FIVE;1HANGUL KIYEOK;2NIEUN;2TIKEUT;2RIEUL;2MIEUM;2PIEUP;2SIOS;2IEUNG
3268;CIRCLm HANGUL CIEUC;2CHIEUCH;2KHIEUKH;2THIEUTH;2PHIEUPH;2HIEUH;2KIYEOK A;2NIEUN A;2TIKEUT A
3271;CIRCLm HANGUL RIEUL A;2MIEUM A;2PIEUP A;2SIOS A;2IEUNG A;2CIEUC A;2CHIEUCH A;2KHIEUKH A
3279;CIRCLm HANGUL THIEUTH A;2PHIEUPH A;2HIEUH A;1KOREAN CHARACTi CHAMKO;3JUEUI;1HANGUL IEUNG U
327F;KOREAN STlARD u;CIRCLm IDEOGRAPH ONE;2TWO;2THREE;2FOUR;2FIVE;2SIX;2SEVEN;2Ef;2NgE;2TEN;2MOON
328B;CIRCLm IDEOGRAPH FIRE;2WATi;2WOOD;2METAL;2EARTH;2SUN;2STOCK;2HAVE;2SOCIETY;2NAME;2SPECIAL
3296;CIRCLm IDEOGRAPH FgANCIAL;2CONGRATULAv;2LABOR;2SECRET;2MALE;2FEMALE;2SUITABLE;2EXCELLENT
329E;CIRCLm IDEOGRAPH PRgT;2ATTENv;2ITEM;2REST;2COPY;2CORRECT;2HIGH;2CENTRE;2LOW;2p;2Rf;2MmICgE
32AA;CIRCLm IDEOGRAPH RELIGION;2STUDY;2SUPiVISE;2ENTiPRISE;2RESOURCE;2ALLIANCE;2Nf
32B1;CIRCLm NUMBi THIRTY SIX;3SEVEN;3Ef;3NgE;2FORTY;3ONE;3TWO;3THREE;3FOUR;3FIVE;3SIX;3SEVEN;3Ef
32BE;CIRCLm NUMBi FORTY NgE;2FIFTY;IDEOGRAPHIC TELEGRAPH u FOR JANUARY;4FEBRUARY;4MARCH;4APRIL
32C4;IDEOGRAPHIC TELEGRAPH u FOR MAY;4JUNE;4JULY;4AUGUST;4SEPTEMBi;4OCTOBi;4NOVEMBi;4DECEMBi
32CC;SQUARE HG;1iG;1EV;LIMITm LIABILITY n;CIRCLm KATAKANA A;2I;2U;2E;2O;2KA;2KI;2KU;2KE;2KO;2SA
32DB;CIRCLm KATAKANA SI;2SU;2SE;2SO;2TA;2TI;2TU;2TE;2TO;2NA;2NI;2NU;2NE;2NO;2HA;2HI;2HU;2HE;2HO
32EE;CIRCLm KATAKANA MA;2MI;2MU;2ME;2MO;2YA;2YU;2YO;2RA;2RI;2RU;2RE;2RO;2WA;2WI;2WE;2WO
32FF;SQUARE iA NAME REIWA;1APAATO;1ARUHUA;1ANPEA;1AARU;1ggGU;1gTI;1UON;1ESUKUUDO;1EEKAA;1ONSU
330A;SQUARE OOMU;1KAIRI;1KARATTO;1KARORII;1GARON;1GANMA;1GIGA;1GgII;1KYURII;1GIRUDAA;1KIRO
3315;SQUARE KIROGURAMU;1KIROMEETORU;1KIROWATTO;1GURAMU;1GURAMUTON;1KURUZEIRO;1KUROONE;1KEESU
331D;SQUARE KORUNA;1KOOPO;1SAIKURU;1SANTIIMU;1SIRgGU;1SENTI;1SENTO;1DAASU;1DESI;1DORU;1TON;1NANO
3329;SQUARE NOTTO;1HAITU;1PAASENTO;1PAATU;1BAARiU;1PIASUTORU;1PIKURU;1PIKO;1BIRU;1HUARADDO;1HUIITO
3334;SQUARE BUSSYiU;1HURAN;1HEKUTAARU;1PESO;1PENIHI;1HiUTU;1PENSU;1PEEZI;1BEETA;1POgTO;1BORUTO
333F;SQUARE HON;1PONDO;1HOORU;1HOON;1MAIKURO;1MAIRU;1MAHHA;1MARUKU;1MANSYON;1MIKURON;1MIRI
334A;SQUARE MIRIBAARU;1MEGA;1MEGATON;1MEETORU;1YAADO;1YAARU;1YUAN;1RITTORU;1RIRA;1RUPII;1RUUBURU
3355;SQUARE REMU;1RENTOGEN;1WATTO;IDEOGRAPHIC TELEGRAPH u FOR HOUR ZiO;5ONE;5TWO;5THREE;5FOUR
335D;IDEOGRAPHIC TELEGRAPH u FOR HOUR FIVE;5SIX;5SEVEN;5Ef;5NgE;5TEN;5ELEVEN;5TWELVE;5THIRTEEN
3366;IDEOGRAPHIC TELEGRAPH u FOR HOUR FOURTEEN;5FIFTEEN;5SIXTEEN;5SEVENTEEN;5EfEEN;5NgETEEN
336C;IDEOGRAPHIC TELEGRAPH u FOR HOUR TWENTY;5TWENTY-ONE;5TWENTY-TWO;5TWENTY-THREE;5TWENTY-FOUR
3371;SQUARE HPA;1DA;1AU;1BAR;1OV;1PC;1DM;2SQUARm;2CUBm;1IU;1iA NAME HEISEI;3SYOUWA;3TAISYOU;3MEIZI
337F;SQUARE CORPORAv;1PA AMPS;1NA;1MU A;1MA;1KA;1KB;1MB;1GB;1CAL;1KCAL;1PF;1NF;1MU F;2G;1MG;1KG
3390;SQUARE HZ;1KHZ;1MHZ;1GHZ;1THZ;1MU L;1ML;1DL;1KL;1FM;1NM;1MU M;1MM;1CM;1KM;1MM SQUARm
33A0;SQUARE CM SQUARm;1M SQUARm;1KM SQUARm;1MM CUBm;1CM CUBm;1M CUBm;1KM CUBm;1M OVi S;4SQUARm;1PA
33AA;SQUARE KPA;1MPA;1GPA;1RAD;2OVi S;4SQUARm;1PS;1NS;1MU S;1MS;1PV;1NV;1MU V;1MV;1KV;1MV MEGA;1PW
33BB;SQUARE NW;1MU W;1MW;1KW;1MW MEGA;1K OHM;1M OHM;1AM;1BQ;1CC;1CD;1C OVi KG;1CO;1DB;1GY;1HA;1HP
33CC;SQUARE g;1KK;1KM d;1KT;1LM;1LN;1LOG;1LX;1MB e;1MIL;1MOL;1PH;1PM;1PPM;1PR;1SR;1SV;1WB;1V OVi M
33DF;SQUARE A OVi M;IDEOGRAPHIC TELEGRAPH u FOR DAY ONE;5TWO;5THREE;5FOUR;5FIVE;5SIX;5SEVEN;5Ef
33E8;IDEOGRAPHIC TELEGRAPH u FOR DAY NgE;5TEN;5ELEVEN;5TWELVE;5THIRTEEN;5FOURTEEN;5FIFTEEN
33EF;IDEOGRAPHIC TELEGRAPH u FOR DAY SIXTEEN;5SEVENTEEN;5EfEEN;5NgETEEN;5TWENTY;5TWENTY-ONE
33F5;IDEOGRAPHIC TELEGRAPH u FOR DAY TWENTY-TWO;5TWENTY-THREE;5TWENTY-FOUR;5TWENTY-FIVE
33F9;IDEOGRAPHIC TELEGRAPH u FOR DAY TWENTY-SIX;5TWENTY-SEVEN;5TWENTY-Ef;5TWENTY-NgE;5THIRTY
33FE;IDEOGRAPHIC TELEGRAPH u FOR DAY THIRTY-ONE;SQUARE GAL
4DC0;HEXAGRAM FOR THE CREATIVE HEAVEN;3RECEPTIVE EARTH;2DIFFICULTY AT THE BEGgNgG;2YOUTHFUL FOLLY
4DC4;HEXAGRAM FOR WAITgG;2CONFLICT;2THE ARMY;2HOLDgG TOGETHi;2e TAMgG;2TREADgG;2PEACE;2STlSTILL
4DCC;HEXAGRAM FOR FELLOWSHIP;2GREAT POSSESSION;2MODESTY;2ENTHUSIASM;2FOLLOWgG;2WORK ON THE DECAYm
4DD2;HEXAGRAM FOR APPROACH;2CONTEMPLAv;2BITgG THROUGH;2GRACE;2SPLITTgG APART;2RETURN;2gNOCENCE
4DD9;HEXAGRAM FOR GREAT TAMgG;2MOUTH CORNiS;2GREAT PREPONDiANCE;2THE ABYSMAL WATi;3CLgGgG FIRE
4DDE;HEXAGRAM FOR gFLUENCE;2DURAv;2RETREAT;2GREAT POWi;2PROGRESS;2DARKENgG OF THE Lf;2THE FAMILY
4DE5;HEXAGRAM FOR OPPOSIv;2OBSTRUCv;2DELIViANCE;2DECREASE;2gCREASE;2BREAKTHROUGH;2COMgG TO MEET
4DEC;HEXAGRAM FOR GATHigG TOGETHi;2PUSHgG UPWARD;2OPPRESSION;2THE WELL;2REVOLUv;2THE CAULDRON
4DF2;HEXAGRAM FOR THE AROUSgG THUNDi;3KEEPgG STILL MOUNTAg;2DEVELOPMENT;2THE MARRYgG MAIDEN
4DF6;HEXAGRAM FOR ABUNDANCE;2THE Wlii;3GENTLE WgD;3JOYOUS LAKE;2DISPiSION;2LIMITAv;2gNi TRUTH
4DFD;HEXAGRAM FOR e PREPONDiANCE;2AFTi COMPLEv;2BEFORE COMPLEv
A000;YI SYLLABLE IT;2IX;2I;2IP;2IET;2IEX;2IE;2IEP;2AT;2AX;2A;2AP;2UOX;2UO;2UOP;2OT;2OX;2O;2OP;2EX
A014;YI SYLLABLE E;2WU;2BIT;2BIX;2BI;2BIP;2BIET;2BIEX;2BIE;2BIEP;2BAT;2BAX;2BA;2BAP;2BUOX;2BUO
A024;YI SYLLABLE BUOP;2BOT;2BOX;2BO;2BOP;2BEX;2BE;2BEP;2BUT;2BUX;2BU;2BUP;2BURX;2BUR;2BYT;2BYX;2BY
A035;YI SYLLABLE BYP;2BYRX;2BYR;2PIT;2PIX;2PI;2PIP;2PIEX;2PIE;2PIEP;2PAT;2PAX;2PA;2PAP;2PUOX;2PUO
A045;YI SYLLABLE PUOP;2POT;2POX;2PO;2POP;2PUT;2PUX;2PU;2PUP;2PURX;2PUR;2PYT;2PYX;2PY;2PYP;2PYRX
A055;YI SYLLABLE PYR;2BBIT;2BBIX;2BBI;2BBIP;2BBIET;2BBIEX;2BBIE;2BBIEP;2BBAT;2BBAX;2BBA;2BBAP
A062;YI SYLLABLE BBUOX;2BBUO;2BBUOP;2BBOT;2BBOX;2BBO;2BBOP;2BBEX;2BBE;2BBEP;2BBUT;2BBUX;2BBU;2BBUP
A070;YI SYLLABLE BBURX;2BBUR;2BBYT;2BBYX;2BBY;2BBYP;2NBIT;2NBIX;2NBI;2NBIP;2NBIEX;2NBIE;2NBIEP
A07D;YI SYLLABLE NBAT;2NBAX;2NBA;2NBAP;2NBOT;2NBOX;2NBO;2NBOP;2NBUT;2NBUX;2NBU;2NBUP;2NBURX;2NBUR
A08B;YI SYLLABLE NBYT;2NBYX;2NBY;2NBYP;2NBYRX;2NBYR;2HMIT;2HMIX;2HMI;2HMIP;2HMIEX;2HMIE;2HMIEP
A098;YI SYLLABLE HMAT;2HMAX;2HMA;2HMAP;2HMUOX;2HMUO;2HMUOP;2HMOT;2HMOX;2HMO;2HMOP;2HMUT;2HMUX;2HMU
A0A6;YI SYLLABLE HMUP;2HMURX;2HMUR;2HMYX;2HMY;2HMYP;2HMYRX;2HMYR;2MIT;2MIX;2MI;2MIP;2MIEX;2MIE
A0B4;YI SYLLABLE MIEP;2MAT;2MAX;2MA;2MAP;2MUOT;2MUOX;2MUO;2MUOP;2MOT;2MOX;2MO;2MOP;2MEX;2ME;2MUT
A0C4;YI SYLLABLE MUX;2MU;2MUP;2MURX;2MUR;2MYT;2MYX;2MY;2MYP;2FIT;2FIX;2FI;2FIP;2FAT;2FAX;2FA;2FAP
A0D5;YI SYLLABLE FOX;2FO;2FOP;2FUT;2FUX;2FU;2FUP;2FURX;2FUR;2FYT;2FYX;2FY;2FYP;2VIT;2VIX;2VI;2VIP
A0E6;YI SYLLABLE VIET;2VIEX;2VIE;2VIEP;2VAT;2VAX;2VA;2VAP;2VOT;2VOX;2VO;2VOP;2VEX;2VEP;2VUT;2VUX
A0F6;YI SYLLABLE VU;2VUP;2VURX;2VUR;2VYT;2VYX;2VY;2VYP;2VYRX;2VYR;2DIT;2DIX;2DI;2DIP;2DIEX;2DIE
A106;YI SYLLABLE DIEP;2DAT;2DAX;2DA;2DAP;2DUOX;2DUO;2s;2DOX;2DO;2DOP;2DEX;2DE;2DEP;2DUT;2DUX;2DU
A117;YI SYLLABLE DUP;2DURX;2DUR;2TIT;2TIX;2TI;2TIP;2TIEX;2TIE;2TIEP;2TAT;2TAX;2TA;2TAP;2TUOT;2TUOX
A127;YI SYLLABLE TUO;2TUOP;2TOT;2TOX;2TO;2TOP;2TEX;2TE;2TEP;2TUT;2TUX;2TU;2TUP;2TURX;2TUR;2DDIT
A137;YI SYLLABLE DDIX;2DDI;2DDIP;2DDIEX;2DDIE;2DDIEP;2DDAT;2DDAX;2DDA;2DDAP;2DDUOX;2DDUO;2DDUOP
A144;YI SYLLABLE Ds;2DDOX;2DDO;2DDOP;2DDEX;2DDE;2DDEP;2DDUT;2DDUX;2DDU;2DDUP;2DDURX;2DDUR;2NDIT
A152;YI SYLLABLE NDIX;2NDI;2NDIP;2NDIEX;2NDIE;2NDAT;2NDAX;2NDA;2NDAP;2Ns;2NDOX;2NDO;2NDOP;2NDEX
A160;YI SYLLABLE NDE;2NDEP;2NDUT;2NDUX;2NDU;2NDUP;2NDURX;2NDUR;2HNIT;2HNIX;2HNI;2HNIP;2HNIET
A16D;YI SYLLABLE HNIEX;2HNIE;2HNIEP;2HNAT;2HNAX;2HNA;2HNAP;2HNUOX;2HNUO;2HNOT;2HNOX;2HNOP;2HNEX
A17A;YI SYLLABLE HNE;2HNEP;2HNUT;2NIT;2NIX;2NI;2NIP;2NIEX;2NIE;2NIEP;2NAX;2NA;2NAP;2NUOX;2NUO
A189;YI SYLLABLE NUOP;2NOT;2NOX;2NO;2NOP;2NEX;2NE;2NEP;2NUT;2NUX;2NU;2NUP;2NURX;2NUR;2HLIT;2HLIX
A199;YI SYLLABLE HLI;2HLIP;2HLIEX;2HLIE;2HLIEP;2HLAT;2HLAX;2HLA;2HLAP;2HLUOX;2HLUO;2HLUOP;2HLOX
A1A6;YI SYLLABLE HLO;2HLOP;2HLEX;2HLE;2HLEP;2HLUT;2HLUX;2HLU;2HLUP;2HLURX;2HLUR;2HLYT;2HLYX;2HLY
A1B4;YI SYLLABLE HLYP;2HLYRX;2HLYR;2LIT;2LIX;2LI;2LIP;2LIET;2LIEX;2LIE;2LIEP;2LAT;2LAX;2LA;2LAP
A1C3;YI SYLLABLE LUOT;2LUOX;2LUO;2LUOP;2LOT;2LOX;2LO;2LOP;2LEX;2LE;2LEP;2LUT;2LUX;2LU;2LUP;2LURX
A1D3;YI SYLLABLE LUR;2LYT;2LYX;2LY;2LYP;2LYRX;2LYR;2GIT;2GIX;2GI;2GIP;2GIET;2GIEX;2GIE;2GIEP;2GAT
A1E3;YI SYLLABLE GAX;2GA;2GAP;2GUOT;2GUOX;2GUO;2GUOP;2GOT;2GOX;2GO;2GOP;2GET;2GEX;2GE;2GEP;2GUT
A1F3;YI SYLLABLE GUX;2GU;2GUP;2GURX;2GUR;2KIT;2KIX;2KI;2KIP;2KIEX;2KIE;2KIEP;2KAT;2KAX;2KA;2KAP
A203;YI SYLLABLE KUOX;2KUO;2KUOP;2KOT;2KOX;2KO;2KOP;2KET;2KEX;2KE;2KEP;2KUT;2KUX;2KU;2KUP;2KURX
A213;YI SYLLABLE KUR;2GGIT;2GGIX;2GGI;2GGIEX;2GGIE;2GGIEP;2GGAT;2GGAX;2GGA;2GGAP;2GGUOT;2GGUOX
A220;YI SYLLABLE GGUO;2GGUOP;2GGOT;2GGOX;2GGO;2GGOP;2GGET;2GGEX;2GGE;2GGEP;2GGUT;2GGUX;2GGU;2GGUP
A22E;YI SYLLABLE GGURX;2GGUR;2MGIEX;2MGIE;2MGAT;2MGAX;2MGA;2MGAP;2MGUOX;2MGUO;2MGUOP;2MGOT;2MGOX
A23B;YI SYLLABLE MGO;2MGOP;2MGEX;2MGE;2MGEP;2MGUT;2MGUX;2MGU;2MGUP;2MGURX;2MGUR;2HXIT;2HXIX;2HXI
A249;YI SYLLABLE HXIP;2HXIET;2HXIEX;2HXIE;2HXIEP;2HXAT;2HXAX;2HXA;2HXAP;2HXUOT;2HXUOX;2HXUO;2HXUOP
A256;YI SYLLABLE HXOT;2HXOX;2HXO;2HXOP;2HXEX;2HXE;2HXEP;2NGIEX;2NGIE;2NGIEP;2NGAT;2NGAX;2NGA;2NGAP
A264;YI SYLLABLE NGUOT;2NGUOX;2NGUO;2NGOT;2NGOX;2NGO;2NGOP;2NGEX;2NGE;2NGEP;2HIT;2HIEX;2HIE;2HAT
A272;YI SYLLABLE HAX;2HA;2HAP;2HUOT;2HUOX;2HUO;2HUOP;2HOT;2HOX;2HO;2HOP;2HEX;2HE;2HEP;2WAT;2WAX
A282;YI SYLLABLE WA;2WAP;2WUOX;2WUO;2WUOP;2WOX;2WO;2WOP;2WEX;2WE;2WEP;2ZIT;2ZIX;2ZI;2ZIP;2ZIEX
A292;YI SYLLABLE ZIE;2ZIEP;2ZAT;2ZAX;2ZA;2ZAP;2ZUOX;2ZUO;2ZUOP;2ZOT;2ZOX;2ZO;2ZOP;2ZEX;2ZE;2ZEP
A2A2;YI SYLLABLE ZUT;2ZUX;2ZU;2ZUP;2ZURX;2ZUR;2ZYT;2ZYX;2ZY;2ZYP;2ZYRX;2ZYR;2CIT;2CIX;2CI;2CIP
A2B2;YI SYLLABLE CIET;2CIEX;2CIE;2CIEP;2CAT;2CAX;2CA;2CAP;2CUOX;2CUO;2CUOP;2COT;2COX;2CO;2COP;2CEX
A2C2;YI SYLLABLE CE;2CEP;2CUT;2CUX;2CU;2CUP;2CURX;2CUR;2CYT;2CYX;2CY;2CYP;2CYRX;2CYR;2ZZIT;2ZZIX
A2D2;YI SYLLABLE ZZI;2ZZIP;2ZZIET;2ZZIEX;2ZZIE;2ZZIEP;2ZZAT;2ZZAX;2ZZA;2ZZAP;2ZZOX;2ZZO;2ZZOP
A2DF;YI SYLLABLE ZZEX;2ZZE;2ZZEP;2ZZUX;2ZZU;2ZZUP;2ZZURX;2ZZUR;2ZZYT;2ZZYX;2ZZY;2ZZYP;2ZZYRX;2ZZYR
A2ED;YI SYLLABLE NZIT;2NZIX;2NZI;2NZIP;2NZIEX;2NZIE;2NZIEP;2NZAT;2NZAX;2NZA;2NZAP;2NZUOX;2NZUO
A2FA;YI SYLLABLE NZOX;2NZOP;2NZEX;2NZE;2NZUX;2NZU;2NZUP;2NZURX;2NZUR;2NZYT;2NZYX;2NZY;2NZYP;2NZYRX
A308;YI SYLLABLE NZYR;2SIT;2SIX;2SI;2SIP;2SIEX;2SIE;2SIEP;2SAT;2SAX;2SA;2SAP;2SUOX;2SUO;2SUOP;2SOT
A318;YI SYLLABLE SOX;2SO;2SOP;2SEX;2SE;2SEP;2SUT;2SUX;2SU;2SUP;2SURX;2SUR;2SYT;2SYX;2SY;2SYP;2SYRX
A329;YI SYLLABLE SYR;2SSIT;2SSIX;2SSI;2SSIP;2SSIEX;2SSIE;2SSIEP;2SSAT;2SSAX;2SSA;2SSAP;2SSOT;2SSOX
A337;YI SYLLABLE SSO;2SSOP;2SSEX;2SSE;2SSEP;2SSUT;2SSUX;2SSU;2SSUP;2SSYT;2SSYX;2SSY;2SSYP;2SSYRX
A345;YI SYLLABLE SSYR;2ZHAT;2ZHAX;2ZHA;2ZHAP;2ZHUOX;2ZHUO;2ZHUOP;2ZHOT;2ZHOX;2ZHO;2ZHOP;2ZHET
A352;YI SYLLABLE ZHEX;2ZHE;2ZHEP;2ZHUT;2ZHUX;2ZHU;2ZHUP;2ZHURX;2ZHUR;2ZHYT;2ZHYX;2ZHY;2ZHYP;2ZHYRX
A360;YI SYLLABLE ZHYR;2CHAT;2CHAX;2CHA;2CHAP;2CHUOT;2CHUOX;2CHUO;2CHUOP;2CHOT;2CHOX;2CHO;2CHOP
A36D;YI SYLLABLE CHET;2CHEX;2CHE;2CHEP;2CHUX;2CHU;2CHUP;2CHURX;2CHUR;2CHYT;2CHYX;2CHY;2CHYP;2CHYRX
A37B;YI SYLLABLE CHYR;2RRAX;2RRA;2RRUOX;2RRUO;2RROT;2RROX;2RRO;2RROP;2RRET;2RREX;2RRE;2RREP;2RRUT
A389;YI SYLLABLE RRUX;2RRU;2RRUP;2RRURX;2RRUR;2RRYT;2RRYX;2RRY;2RRYP;2RRYRX;2RRYR;2NRAT;2NRAX;2NRA
A397;YI SYLLABLE NRAP;2NROX;2NRO;2NROP;2NRET;2NREX;2NRE;2NREP;2NRUT;2NRUX;2NRU;2NRUP;2NRURX;2NRUR
A3A5;YI SYLLABLE NRYT;2NRYX;2NRY;2NRYP;2NRYRX;2NRYR;2SHAT;2SHAX;2SHA;2SHAP;2SHUOX;2SHUO;2SHUOP
A3B2;YI SYLLABLE SHOT;2SHOX;2SHO;2SHOP;2SHET;2SHEX;2SHE;2SHEP;2SHUT;2SHUX;2SHU;2SHUP;2SHURX;2SHUR
A3C0;YI SYLLABLE SHYT;2SHYX;2SHY;2SHYP;2SHYRX;2SHYR;2RAT;2RAX;2RA;2RAP;2RUOX;2RUO;2RUOP;2ROT;2ROX
A3CF;YI SYLLABLE RO;2ROP;2REX;2RE;2REP;2RUT;2RUX;2RU;2RUP;2RURX;2RUR;2RYT;2RYX;2RY;2RYP;2RYRX;2RYR
A3E0;YI SYLLABLE JIT;2JIX;2JI;2JIP;2JIET;2JIEX;2JIE;2JIEP;2JUOT;2JUOX;2JUO;2JUOP;2JOT;2JOX;2JO
A3EF;YI SYLLABLE JOP;2JUT;2JUX;2JU;2JUP;2JURX;2JUR;2JYT;2JYX;2JY;2JYP;2JYRX;2JYR;2QIT;2QIX;2QI
A3FF;YI SYLLABLE QIP;2QIET;2QIEX;2QIE;2QIEP;2QUOT;2QUOX;2QUO;2QUOP;2QOT;2QOX;2QO;2QOP;2QUT;2QUX
A40E;YI SYLLABLE QU;2QUP;2QURX;2QUR;2QYT;2QYX;2QY;2QYP;2QYRX;2QYR;2JJIT;2JJIX;2JJI;2JJIP;2JJIET
A41D;YI SYLLABLE JJIEX;2JJIE;2JJIEP;2JJUOX;2JJUO;2JJUOP;2JJOT;2JJOX;2JJO;2JJOP;2JJUT;2JJUX;2JJU
A42A;YI SYLLABLE JJUP;2JJURX;2JJUR;2JJYT;2JJYX;2JJY;2JJYP;2NJIT;2NJIX;2NJI;2NJIP;2NJIET;2NJIEX
A437;YI SYLLABLE NJIE;2NJIEP;2NJUOX;2NJUO;2NJOT;2NJOX;2NJO;2NJOP;2NJUX;2NJU;2NJUP;2NJURX;2NJUR
A444;YI SYLLABLE NJYT;2NJYX;2NJY;2NJYP;2NJYRX;2NJYR;2NYIT;2NYIX;2NYI;2NYIP;2NYIET;2NYIEX;2NYIE
A451;YI SYLLABLE NYIEP;2NYUOX;2NYUO;2NYUOP;2NYOT;2NYOX;2NYO;2NYOP;2NYUT;2NYUX;2NYU;2NYUP;2XIT;2XIX
A45F;YI SYLLABLE XI;2XIP;2XIET;2XIEX;2XIE;2XIEP;2XUOX;2XUO;2XOT;2XOX;2XO;2XOP;2XYT;2XYX;2XY;2XYP
A46F;YI SYLLABLE XYRX;2XYR;2YIT;2YIX;2YI;2YIP;2YIET;2YIEX;2YIE;2YIEP;2YUOT;2YUOX;2YUO;2YUOP;2YOT
A47E;YI SYLLABLE YOX;2YO;2YOP;2YUT;2YUX;2YU;2YUP;2YURX;2YUR;2YYT;2YYX;2YY;2YYP;2YYRX;2YYR
A490;YI RADICAL QOT;2LI;2KIT;2NYIP;2CYP;2SSI;2GGOP;2GEP;2MI;2HXIT;2LYR;2BBUT;2MOP;2YO;2PUT;2HXUO
A4A0;YI RADICAL TAT;2GA;2ZUP;2CYT;2DDUR;2BUR;2GGUO;2NYOP;2TU;2OP;2JJUT;2ZOT;2PYT;2HMO;2YIT;2VUR
A4B0;YI RADICAL SHY;2VEP;2ZA;2JO;2NZUP;2JJY;2GOT;2JJIE;2WO;2DU;2SHUR;2LIE;2CY;2CUOP;2CIP;2HXOP
A4C0;YI RADICAL SHAT;2ZUR;2SHOP;2CHE;2ZZIET;2NBIE;2KE
A4D0;LISU a BA;2PA;2PHA;2DA;2TA;2THA;2GA;2KA;2KHA;2JA;2CA;2CHA;2DZA;2TSA;2TSHA;2MA;2NA;2LA;2SA
A4E3;LISU a ZHA;2ZA;2NGA;2HA;2XA;2HHA;2FA;2WA;2SHA;2YA;2GHA;2A;2AE;2E;2EU;2I;2O;2U;2UE;2UH;2OE
A4F8;LISU a TONE MYA TI;3NA PO;3MYA CYA;4BO;4NA;4JEU;1PUNCTUAv COMMA;2FULL STOP;VAI SYLLABLE EE
A501;VAI SYLLABLE EEN;2HEE;2WEE;2WEEN;2PEE;2BHEE;2BEE;2MBEE;2KPEE;2MGBEE;2GBEE;2FEE;2VEE;2TEE
A50F;VAI SYLLABLE THEE;2DHEE;2DHHEE;2LEE;2REE;2DEE;2NDEE;2SEE;2SHEE;2ZEE;2ZHEE;2CEE;2JEE;2NJEE
A51D;VAI SYLLABLE YEE;2KEE;2NGGEE;2GEE;2MEE;2NEE;2NYEE;2I;2g;2HI;2Hg;2WI;2Wg;2PI;2BHI;2BI;2MBI
A52E;VAI SYLLABLE KPI;2MGBI;2GBI;2FI;2VI;2TI;2THI;2DHI;2DHHI;2LI;2RI;2DI;2NDI;2SI;2SHI;2ZI;2ZHI
A53F;VAI SYLLABLE CI;2JI;2NJI;2YI;2KI;2NGGI;2GI;2MI;2NI;2NYI;2A;2AN;2NGAN;2HA;2HAN;2WA;2WAN;2PA
A551;VAI SYLLABLE BHA;2BA;2MBA;2KPA;2KPAN;2MGBA;2GBA;2FA;2VA;2TA;2THA;2DHA;2DHHA;2LA;2RA;2DA;2NDA
A562;VAI SYLLABLE SA;2SHA;2ZA;2ZHA;2CA;2JA;2NJA;2YA;2KA;2KAN;2NGGA;2GA;2MA;2NA;2NYA;2OO;2OON;2HOO
A574;VAI SYLLABLE WOO;2WOON;2POO;2BHOO;2BOO;2MBOO;2KPOO;2MGBOO;2GBOO;2FOO;2VOO;2TOO;2THOO;2DHOO
A582;VAI SYLLABLE DHHOO;2LOO;2ROO;2DOO;2NDOO;2SOO;2SHOO;2ZOO;2ZHOO;2COO;2JOO;2NJOO;2YOO;2KOO
A590;VAI SYLLABLE NGGOO;2GOO;2MOO;2NOO;2NYOO;2U;2UN;2HU;2HUN;2WU;2WUN;2PU;2BHU;2BU;2MBU;2KPU;2MGBU
A5A1;VAI SYLLABLE GBU;2FU;2VU;2TU;2THU;2DHU;2DHHU;2LU;2RU;2DU;2NDU;2SU;2SHU;2ZU;2ZHU;2CU;2JU;2NJU
A5B3;VAI SYLLABLE YU;2KU;2NGGU;2GU;2MU;2NU;2NYU;2O;2ON;2NGON;2HO;2HON;2WO;2WON;2PO;2BHO;2BO;2MBO
A5C5;VAI SYLLABLE KPO;2MGBO;2GBO;2GBON;2FO;2VO;2TO;2THO;2DHO;2DHHO;2LO;2RO;2DO;2NDO;2SO;2SHO;2ZO
A5D6;VAI SYLLABLE ZHO;2CO;2JO;2NJO;2YO;2KO;2NGGO;2GO;2MO;2NO;2NYO;2E;2EN;2NGEN;2HE;2HEN;2WE;2WEN
A5E8;VAI SYLLABLE PE;2BHE;2BE;2MBE;2KPE;2KPEN;2MGBE;2GBE;2GBEN;2FE;2VE;2TE;2THE;2DHE;2DHHE;2LE;2RE
A5F9;VAI SYLLABLE DE;2NDE;2SE;2SHE;2ZE;2ZHE;2CE;2JE;2NJE;2YE;2KE;2NGGE;2NGGEN;2GE;2GEN;2ME;2NE
A60A;VAI SYLLABLE NYE;2NG;2LENGTHENi;1COMMA;1FULL STOP;1QUESv MARK;1SYLLABLE NDOLE FA;3KA;3SOO
A613;VAI u FEENG;2KEENG;2TgG;2NII;2BANG;2FAA;2TAA;2DANG;2DOONG;2KUNG;2TONG;2DO-O;2JONG;1DIGIT ZiO
A621;VAI DIGIT ONE;2TWO;2THREE;2FOUR;2FIVE;2SIX;2SEVEN;2Ef;2NgE;1SYLLABLE NDOLE MA;3DO
A640;CYRILLIC d a ZEMLYA;1e a ZEMLYA;1d a DZELO;1e a DZELO;1d a REViSm DZE;1e a REViSm DZE
A646;CYRILLIC d a IOTA;1e a IOTA;1d a DJiV;1e a DJiV;1d a MONOGRAPH UK;1e a MONOGRAPH UK
A64C;CYRILLIC d a BROAD OMEGA;1e a BROAD OMEGA;1d a NEUTRAL Yi;1e a NEUTRAL Yi;1d a YiU c BACK Yi
A651;CYRILLIC e a YiU c BACK Yi;1d a IOTIFIm YAT;1e a IOTIFIm YAT;1d a REViSm YU;1e a REViSm YU
A656;CYRILLIC d a IOTIFIm A;1e a IOTIFIm A;1d a CLOSm LITTLE YUS;1e a CLOSm LITTLE YUS
A65A;CYRILLIC d a BLENDm YUS;1e a BLENDm YUS;1d a IOTIFIm CLOSm LITTLE YUS
A65D;CYRILLIC e a IOTIFIm CLOSm LITTLE YUS;1d a YN;1e a YN;1d a REViSm TSE;1e a REViSm TSE
A662;CYRILLIC d a SOFT DE;1e a SOFT DE;1d a SOFT EL;1e a SOFT EL;1d a SOFT EM;1e a SOFT EM
A668;CYRILLIC d a MONOCULAR O;1e a MONOCULAR O;1d a BgOCULAR O;1e a BgOCULAR O;1d a r MONOCULAR O
A66D;CYRILLIC e a r MONOCULAR O;1a MULTIOCULAR O;COMBggG CYRILLIC VZMET;2TEN MILLIONS n
A671;COMBggG CYRILLIC HUNDRm MILLIONS n;2THOUSl MILLIONS n;SLAVONIC ASTiISK
A674;COMBggG CYRILLIC a UKRAgIAN IE;3I;3YI;3U;3HARD n;3YiU;3SOFT n;3OMEGA;2KAVYKA;2PAYiOK
A67E;CYRILLIC KAVYKA;1PAYiOK;1d a DWE;1e a DWE;1d a DZWE;1e a DZWE;1d a ZHWE;1e a ZHWE;1d a CCHE
A687;CYRILLIC e a CCHE;1d a DZZE;1e a DZZE;1d a TE c MIDDLE HOOK;1e a TE c MIDDLE HOOK;1d a TWE
A68D;CYRILLIC e a TWE;1d a TSWE;1e a TSWE;1d a TSSE;1e a TSSE;1d a TCHE;1e a TCHE;1d a HWE
A695;CYRILLIC e a HWE;1d a SHWE;1e a SHWE;1d a r O;1e a r O;1d a CROSSm O;1e a CROSSm O
A69C;MODIFIi a CYRILLIC HARD n;3SOFT n;COMBggG CYRILLIC a EF;3IOTIFIm E;BAMUM a A;2KA;2U;2KU;2EE
A6A5;BAMUM a REE;2TAE;2O;2NYI;2I;2LA;2PA;2RII;2RIEE;2LEEEE;2MEEEE;2TAA;2NDAA;2NJAEM;2M;2SUU;2MU
A6B6;BAMUM a SHII;2SI;2SHEUX;2SEUX;2KYEE;2KET;2NUAE;2NU;2NJUAE;2YOQ;2SHU;2YUQ;2YA;2NSHA;2KEUX
A6C5;BAMUM a PEUX;2NJEE;2NTEE;2PUE;2WUE;2PEE;2FEE;2RU;2LU;2MI;2NI;2REUX;2RAE;2KEN;2NGKWAEN;2NGGA
A6D5;BAMUM a NGA;2SHO;2PUAE;2FU;2FOM;2WA;2NA;2LI;2PI;2LOQ;2KO;2MBEN;2REN;2MEN;2MA;2TI;2KI;2MO
A6E7;BAMUM a MBAA;2TET;2KPA;2TEN;2NTUU;2SAMBA;2FAAMAE;2KOVUU;2KOGHOM;1COMBggG MARK KOQNDON
A6F1;BAMUM COMBggG MARK TUKWENTIS;1NJAEMLI;1FULL STOP;1COLON;1COMMA;1SEMICOLON;1QUESv MARK
A700;MODIFIi a CHgESE TONE Yg PgG;4YANG PgG;4Yg SHANG;4YANG SHANG;4Yg QU;4YANG QU;4Yg RU;4YANG RU
A708;MODIFIi a EXTRA-HIGH sTm TONE BAR;2HIGH sTm TONE BAR;2MID sTm TONE BAR;2LOW sTm TONE BAR
A70C;MODIFIi a EXTRA-LOW sTm TONE BAR;2EXTRA-HIGH sTm p-STEM TONE BAR;2HIGH sTm p-STEM TONE BAR
A70F;MODIFIi a MID sTm p-STEM TONE BAR;2LOW sTm p-STEM TONE BAR;2EXTRA-LOW sTm p-STEM TONE BAR
A712;MODIFIi a EXTRA-HIGH p-STEM TONE BAR;2HIGH p-STEM TONE BAR;2MID p-STEM TONE BAR
A715;MODIFIi a LOW p-STEM TONE BAR;2EXTRA-LOW p-STEM TONE BAR;2s ViTICAL BAR;3SLASH;3t BAR
A71A;MODIFIi a LOWi Rf CORNi ANGLE;2RAISm UP h;3DOWN h;3EXCLAMAv MARK;3gViTm EXCLAMAv MARK
A71F;MODIFIi a LOW gViTm EXCLAMAv MARK;2STRESS l HIGH TONE;4LOW TONE;LATg d a EGYPTOLOGICAL ALEF
A723;LATg e a EGYPTOLOGICAL ALEF;1d a EGYPTOLOGICAL Ag;1e a EGYPTOLOGICAL Ag;1d a HENG;1e a HENG
A728;LATg d a TZ;1e a TZ;1d a TRESILLO;1e a TRESILLO;1d a CUATRILLO;1e a CUATRILLO
A72E;LATg d a CUATRILLO c COMMA;1e a CUATRILLO c COMMA;1a e d F;4S;1d a AA;1e a AA;1d a AO;1e a AO
A736;LATg d a AU;1e a AU;1d a AV;1e a AV;1d a AV c t BAR;1e a AV c t BAR;1d a AY;1e a AY
A73E;LATg d a REViSm C c s;1e a REViSm C c s;1d a K c y;1e a K c y;1d a K c DIAGONAL y
A743;LATg e a K c DIAGONAL y;1d a K c y l DIAGONAL y;1e a K c y l DIAGONAL y;1d a BROKEN L
A747;LATg e a BROKEN L;1d a L c HIGH y;1e a L c HIGH y;1d a O c LONG y OViLAY
A74B;LATg e a O c LONG y OViLAY;1d a O c LOOP;1e a O c LOOP;1d a OO;1e a OO
A750;LATg d a P c y THROUGH DESCENDi;1e a P c y THROUGH DESCENDi;1d a P c FLOURISH
A753;LATg e a P c FLOURISH;1d a P c SQUIRREL TAIL;1e a P c SQUIRREL TAIL
A756;LATg d a Q c y THROUGH DESCENDi;1e a Q c y THROUGH DESCENDi;1d a Q c DIAGONAL y
A759;LATg e a Q c DIAGONAL y;1d a R ROTUNDA;1e a R ROTUNDA;1d a RUM ROTUNDA;1e a RUM ROTUNDA
A75E;LATg d a V c DIAGONAL y;1e a V c DIAGONAL y;1d a VY;1e a VY;1d a VISIGOTHIC Z
A763;LATg e a VISIGOTHIC Z;1d a THORN c y;1e a THORN c y;1d a THORN c y THROUGH DESCENDi
A767;LATg e a THORN c y THROUGH DESCENDi;1d a VEND;1e a VEND;1d a ET;1e a ET;1d a IS;1e a IS
A76E;LATg d a CON;1e a CON;MODIFIi a US;LATg e a DUM;3LUM;3MUM;3NUM;3RUM;1a e d RUM;1e a TUM;3UM
A779;LATg d a gSULAR D;1e a gSULAR D;1d a gSULAR F;1e a gSULAR F;1d a gSULAR G;3TURNm gSULAR G
A77F;LATg e a TURNm gSULAR G;1d a TURNm L;1e a TURNm L;1d a gSULAR R;1e a gSULAR R;1d a gSULAR S
A785;LATg e a gSULAR S;1d a gSULAR T;1e a gSULAR T;MODIFIi a LOW CIRCUMFLEX ACCENT;2COLON
A78A;MODIFIi a SHORT EQUALS n;LATg d a SALTILLO;1e a SALTILLO;1d a TURNm H
A78E;LATg e a L c RETROFLEX HOOK l BELT;1a SgOLOGICAL s;1d a N c DESCENDi;1e a N c DESCENDi
A792;LATg d a C c BAR;1e a C c BAR;5PALATAL HOOK;3H c PALATAL HOOK;1d a B c FLOURISH
A797;LATg e a B c FLOURISH;1d a F c y;1e a F c y;1d a VOLAPUK AE;1e a VOLAPUK AE;1d a VOLAPUK OE
A79D;LATg e a VOLAPUK OE;1d a VOLAPUK UE;1e a VOLAPUK UE;1d a G c OBLIQUE y;1e a G c OBLIQUE y
A7A2;LATg d a K c OBLIQUE y;1e a K c OBLIQUE y;1d a N c OBLIQUE y;1e a N c OBLIQUE y
A7A6;LATg d a R c OBLIQUE y;1e a R c OBLIQUE y;1d a S c OBLIQUE y;1e a S c OBLIQUE y;1d a H c HOOK
A7AB;LATg d a REViSm OPEN E;3SCRIPT G;3L c BELT;3e d I;1a e d Q;1d a TURNm K;4T;3J c CROSSm-TAIL
A7B3;LATg d a CHI;3BETA;1e a BETA;1d a OMEGA;1e a OMEGA;1d a U c y;1e a U c y;1d a GLOTTAL A
A7BB;LATg e a GLOTTAL A;1d a GLOTTAL I;1e a GLOTTAL I;1d a GLOTTAL U;1e a GLOTTAL U
A7C0;LATg d a OLD POLISH O;1e a OLD POLISH O;1d a ANGLICANA W;1e a ANGLICANA W
A7C4;LATg d a C c PALATAL HOOK;3S c HOOK;3Z c PALATAL HOOK;3D c SHORT y OViLAY
A7C8;LATg e a D c SHORT y OViLAY;1d a S c SHORT y OViLAY;1e a S c SHORT y OViLAY
A7D0;LATg d a CLOSm gSULAR G;1e a CLOSm gSULAR G
A7D3;LATg e a r THORN
A7D5;LATg e a r WYNN;1d a MIDDLE SCOTS S;1e a MIDDLE SCOTS S;1d a SIGMOID S;1e a SIGMOID S
A7F2;MODIFIi a d C;3F;3Q;LATg d a REViSm HALF H;1e a REViSm HALF H;1EPIGRAPHIC a SIDEWAYS I
A7F8;MODIFIi a d H c y;2e LIGATURE OE;LATg a e d TURNm M;1EPIGRAPHIC a REViSm F;4P;3gViTm M
A7FE;LATg EPIGRAPHIC a I LONGA;3ARCHAIC M;SYLOTI NAGRI a A;3I;2n DVISVARA;2a U;3E;3O;2n HASANTA
A807;SYLOTI NAGRI a KO;3KHO;3GO;3GHO;2n ANUSVARA;2a CO;3CHO;3JO;3JHO;3TTO;3TTHO;3DDO;3DDHO;3TO
A815;SYLOTI NAGRI a THO;3DO;3DHO;3NO;3PO;3PHO;3BO;3BHO;3MO;3RO;3LO;3RRO;3SO;3HO;2VOWEL n A;4I;4U
A826;SYLOTI NAGRI VOWEL n E;4OO;2POETRY MARK-1;3MARK-2;3MARK-3;3MARK-4;2n ALTiNATE HASANTA
A830;NORTH gDIC FRACv ONE QUARTi;4HALF;3THREE QUARTiS;3ONE SIXTEENTH;4EfH;3THREE SIXTEENTHS
A836;NORTH gDIC QUARTi MARK;2PLACEHOLDi MARK;2RUPEE MARK;2QUANTITY MARK
A840;PHAGS-PA a KA;2KHA;2GA;2NGA;2CA;2CHA;2JA;2NYA;2TA;2THA;2DA;2NA;2PA;2PHA;2BA;2MA;2TSA;2TSHA
A852;PHAGS-PA a DZA;2WA;2ZHA;2ZA;2e A;2YA;2RA;2LA;2SHA;2SA;2HA;2A;2I;2U;2E;2O;2QA;2XA;2FA;2GGA;2EE
A867;PHAGS-PA SUBJOgm a WA;3YA;1a TTA;2TTHA;2DDA;2NNA;2ALTiNATE YA;2VOICELESS SHA;2VOICm HA
A870;PHAGS-PA a ASPIRATm FA;1SUBJOgm a RA;1SUPiFIXm a RA;1a ClRABgDU;1SgGLE HEAD MARK;1r HEAD MARK
A876;PHAGS-PA MARK SHAD;2r SHAD
A880;SAURASHTRA n ANUSVARA;2VISARGA;1a A;2AA;2I;2II;2U;2UU;2VOCALIC R;3RR;3L;3LL;2E;2EE;2AI;2O;2OO
A891;SAURASHTRA a AU;2KA;2KHA;2GA;2GHA;2NGA;2CA;2CHA;2JA;2JHA;2NYA;2TTA;2TTHA;2DDA;2DDHA;2NNA;2TA
A8A2;SAURASHTRA a THA;2DA;2DHA;2NA;2PA;2PHA;2BA;2BHA;2MA;2YA;2RA;2LA;2VA;2SHA;2SSA;2SA;2HA;2LLA
A8B4;SAURASHTRA CONSONANT n HAARU;1VOWEL n AA;3I;3II;3U;3UU;3VOCALIC R;4RR;4L;4LL;3E;3EE;3AI;3O
A8C2;SAURASHTRA VOWEL n OO;3AU;1n VIRAMA;2ClRABgDU
A8CE;SAURASHTRA DlA;1r DlA;1DIGIT ZiO;2ONE;2TWO;2THREE;2FOUR;2FIVE;2SIX;2SEVEN;2Ef;2NgE
A8E0;COMBggG DEVANAGARI DIGIT ZiO;3ONE;3TWO;3THREE;3FOUR;3FIVE;3SIX;3SEVEN;3Ef;3NgE;2a A;3U;3KA
A8ED;COMBggG DEVANAGARI a NA;3PA;3RA;3VI;2n AVAGRAHA;DEVANAGARI n SPACgG ClRABgDU;2ClRABgDU VIRAMA
A8F4;DEVANAGARI n r ClRABgDU VIRAMA;2ClRABgDU TWO;3THREE;3AVAGRAHA;2PUSHPIKA;1GAP FILLi;1CARET
A8FB;DEVANAGARI HEADy;1n SIDDHAM;1JAg OM;1a AY;1VOWEL n AY;KAYAH LI DIGIT ZiO;3ONE;3TWO;3THREE
A904;KAYAH LI DIGIT FOUR;3FIVE;3SIX;3SEVEN;3Ef;3NgE;2a KA;3KHA;3GA;3NGA;3SA;3SHA;3ZA;3NYA;3TA;3HTA
A914;KAYAH LI a NA;3PA;3PHA;3MA;3DA;3BA;3RA;3YA;3LA;3WA;3THA;3HA;3VA;3CA;3A;3OE;3I;3OO;2VOWEL UE
A927;KAYAH LI VOWEL E;3U;3EE;3O;2TONE PLOPHU;3CALYA;4PLOPHU;2n CWI;3SHYA;REJANG a KA;2GA;2NGA;2TA
A934;REJANG a DA;2NA;2PA;2BA;2MA;2CA;2JA;2NYA;2SA;2RA;2LA;2YA;2WA;2HA;2MBA;2NGGA;2NDA;2NYJA;2A
A947;REJANG VOWEL n I;3U;3E;3AI;3O;3AU;3EU;3EA;1CONSONANT n NG;3N;3R;3H;1VIRAMA
A95F;REJANG SECv MARK;HANGUL CHOSEONG TIKEUT-MIEUM;2TIKEUT-PIEUP;2TIKEUT-SIOS;2TIKEUT-CIEUC
A964;HANGUL CHOSEONG RIEUL-KIYEOK;2RIEUL-SSANGKIYEOK;2RIEUL-TIKEUT;2RIEUL-SSANGTIKEUT;2RIEUL-MIEUM
A969;HANGUL CHOSEONG RIEUL-PIEUP;2RIEUL-SSANGPIEUP;2RIEUL-KAPYEOUNPIEUP;2RIEUL-SIOS;2RIEUL-CIEUC
A96E;HANGUL CHOSEONG RIEUL-KHIEUKH;2MIEUM-KIYEOK;2MIEUM-TIKEUT;2MIEUM-SIOS;2PIEUP-SIOS-THIEUTH
A973;HANGUL CHOSEONG PIEUP-KHIEUKH;2PIEUP-HIEUH;2SSANGSIOS-PIEUP;2IEUNG-RIEUL;2IEUNG-HIEUH
A978;HANGUL CHOSEONG SSANGCIEUC-HIEUH;2SSANGTHIEUTH;2PHIEUPH-HIEUH;2HIEUH-SIOS;2SSANGYEORgHIEUH
A980;JAVANESE n PANYANGGA;2CECAK;2LAYAR;2WIGNYAN;1a A;2I KAWI;2I;2II;2U;2PA CiEK;2NGA LELET
A98B;JAVANESE a NGA LELET RASWADI;2E;2AI;2O;2KA;3SASAK;3MURDA;2GA;3MURDA;2NGA;2CA;3MURDA;2JA
A998;JAVANESE a NYA MURDA;2JA MAHAPRANA;2NYA;2TTA;3MAHAPRANA;2DDA;3MAHAPRANA;2NA MURDA;2TA;3MURDA
A9A2;JAVANESE a DA;3MAHAPRANA;2NA;2PA;3MURDA;2BA;3MURDA;2MA;2YA;2RA;3AGUNG;2LA;2WA;2SA MURDA
A9B0;JAVANESE a SA MAHAPRANA;2SA;2HA;1n CECAK TELU;1VOWEL n TARUNG;3TOLONG;3WULU;4MELIK;3SUKU
A9B9;JAVANESE VOWEL n SUKU MENDUT;3TALgG;3DIRGA MURE;3PEPET;1CONSONANT n KiET;3PENGKAL;3CAKRA
A9C0;JAVANESE PANGKON;1p RiENGGAN;1Rf RiENGGAN;1PADA lAP;2MADYA;2LUHUR;2WgDU;2PANGKAT;2LgGSA
A9C9;JAVANESE PADA LUNGSI;2ADEG;3ADEG;2PISELEH;1TURNm PADA PISELEH
A9CF;JAVANESE PANGRANGKEP;1DIGIT ZiO;2ONE;2TWO;2THREE;2FOUR;2FIVE;2SIX;2SEVEN;2Ef;2NgE
A9DE;JAVANESE PADA TIRTA TUMETES;2ISEN-ISEN;MYANMAR a SHAN GHA;3CHA;3JHA;3NNA;3BHA;1n SHAN SAW
A9E6;MYANMAR MODIFIi a SHAN RmUPLICAv;1a TAI LAgG NYA;4FA;4GA;4GHA;4JA;4JHA;4DDA;4DDHA;4NNA
A9F0;MYANMAR TAI LAgG DIGIT ZiO;4ONE;4TWO;4THREE;4FOUR;4FIVE;4SIX;4SEVEN;4Ef;4NgE;1a TAI LAgG LLA
A9FB;MYANMAR a TAI LAgG DA;4DHA;4BA;4BHA
AA00;CHAM a A;2I;2U;2E;2AI;2O;2KA;2KHA;2GA;2GHA;2NGUE;2NGA;2CHA;2CHHA;2JA;2JHA;2NHUE;2NHA;2NHJA
AA13;CHAM a TA;2THA;2DA;2DHA;2NUE;2NA;2DDA;2PA;2PPA;2PHA;2BA;2BHA;2MUE;2MA;2BBA;2YA;2RA;2LA;2VA
AA26;CHAM a SSA;2SA;2HA;1VOWEL n AA;3I;3II;3EI;3U;3OE;3O;3AI;3AU;3UE;1CONSONANT n YA;3RA;3LA;3WA
AA40;CHAM a FgAL K;3G;3NG;1CONSONANT n FgAL NG;1a FgAL CH;3T;3N;3P;3Y;3R;3L;3SS
AA4C;CHAM CONSONANT n FgAL M;4H
AA50;CHAM DIGIT ZiO;2ONE;2TWO;2THREE;2FOUR;2FIVE;2SIX;2SEVEN;2Ef;2NgE
AA5C;CHAM PUNCTUAv SPIRAL;2DlA;2r DlA;2TRIPLE DlA;MYANMAR a KHAMTI GA;3CA;3CHA;3JA;3JHA;3NYA;3TTA
AA67;MYANMAR a KHAMTI TTHA;3DDA;3DDHA;3DHA;3NA;3SA;3HA;3HHA;3FA;1MODIFIi a KHAMTI RmUPLICAv
AA71;MYANMAR a KHAMTI XA;3ZA;3RA;1LOGOGRAM KHAMTI OAY;3QN;3HM;1u AITON EXCLAMAv;3ONE;3TWO
AA7A;MYANMAR a AITON RA;1n PAO KAREN TONE;2TAI LAgG TONE-2;4TONE-5;1a SHWE PALAUNG CHA;4SHA
AA80;TAI VIET a LOW KO;3HIGH KO;3LOW KHO;3HIGH KHO;3LOW KHHO;3HIGH KHHO;3LOW GO;3HIGH GO;3LOW NGO
AA89;TAI VIET a HIGH NGO;3LOW CO;3HIGH CO;3LOW CHO;3HIGH CHO;3LOW SO;3HIGH SO;3LOW NYO;3HIGH NYO
AA92;TAI VIET a LOW DO;3HIGH DO;3LOW TO;3HIGH TO;3LOW THO;3HIGH THO;3LOW NO;3HIGH NO;3LOW BO
AA9B;TAI VIET a HIGH BO;3LOW PO;3HIGH PO;3LOW PHO;3HIGH PHO;3LOW FO;3HIGH FO;3LOW MO;3HIGH MO
AAA4;TAI VIET a LOW YO;3HIGH YO;3LOW RO;3HIGH RO;3LOW LO;3HIGH LO;3LOW VO;3HIGH VO;3LOW HO
AAAD;TAI VIET a HIGH HO;3LOW O;3HIGH O;2MAI KANG;2VOWEL AA;3I;3UE;3U;3E;3O;2MAI KHIT;2VOWEL IA
AAB9;TAI VIET VOWEL UEA;3UA;3AUE;3AY;3AN;3AM;2TONE MAI EK;4NUENG;4THO;4SONG
AADB;TAI VIET u KON;3NUENG;3SAM;3HO HOI;3KOI KOI;MEETEI MAYEK a E;3O;3CHA;3NYA;3TTA;3TTHA;3DDA
AAE7;MEETEI MAYEK a DDHA;3NNA;3SHA;3SSA;2VOWEL n II;4UU;4AAI;4AU;4AAU;2CHEIKHAN;2AHANG KHUDAM
AAF2;MEETEI MAYEK ANJI;2SYLLABLE REPETIv MARK;2WORD REPETIv MARK;2VOWEL n VISARGA;2VIRAMA
AB01;ETHIOPIC SYLLABLE TTHU;2TTHI;2TTHAA;2TTHEE;2TTHE;2TTHO
AB09;ETHIOPIC SYLLABLE DDHU;2DDHI;2DDHAA;2DDHEE;2DDHE;2DDHO
AB11;ETHIOPIC SYLLABLE DZU;2DZI;2DZAA;2DZEE;2DZE;2DZO
AB20;ETHIOPIC SYLLABLE CCHHA;2CCHHU;2CCHHI;2CCHHAA;2CCHHEE;2CCHHE;2CCHHO
AB28;ETHIOPIC SYLLABLE BBA;2BBU;2BBI;2BBAA;2BBEE;2BBE;2BBO
AB30;LATg e a BARRm ALPHA;3A REViSm-SCHWA;3za E;3BARRm E;3E c FLOURISH;3LENIS F
AB36;LATg e a SCRIPT G c CROSSm-TAIL;3L c gViTm LAZY S;5r MIDDLE TILDE;5MIDDLE RgG
AB3A;LATg e a M c CROSSm-TAIL;3N c CROSSm-TAIL;3ENG c CROSSm-TAIL;3za O;5c y;3OPEN O c y;3gViTm OE
AB41;LATg e a TURNm OE c y;6t y;4O OPEN-O;6c y;3STIRRUP R;1a e d R c Rf LEG;1e a R cOUT HlLE;3r R
AB49;LATg e a R c CROSSm-TAIL;3r R c CROSSm-TAIL;3SCRIPT R;5c RgG;3BASELgE ESH;3U c SHORT Rf LEG
AB4F;LATg e a U BAR c SHORT Rf LEG;3UI;3TURNm UI;3U c p HOOK;3CHI;4c LOW Rf RgG;6p SiIF
AB56;LATg e a X c LOW Rf RgG;5LONG p LEG;8l LOW Rf RgG;8c SiIF;3Y c SHORT Rf LEG
AB5B;MODIFIi BREVE c gViTm BREVE;1a e HENG;3L c gViTm LAZY S;5MIDDLE TILDE;3U c p HOOK
AB60;LATg e a SAKHA YAT;3IOTIFIm E;3OPEN OE;3UO;3gViTm ALPHA;GREEK a e d OMEGA
AB66;LATg e a DZ DIGRAPH c RETROFLEX HOOK;3TS DIGRAPH c RETROFLEX HOOK;3TURNm R c MIDDLE TILDE
AB69;MODIFIi a e TURNm W;2p TACK;2Rf TACK
AB70;CHiOKEE e a A;3E;3I;3O;3U;3V;3GA;3KA;3GE;3GI;3GO;3GU;3GV;3HA;3HE;3HI;3HO;3HU;3HV;3LA;3LE;3LI
AB86;CHiOKEE e a LO;3LU;3LV;3MA;3ME;3MI;3MO;3MU;3NA;3HNA;3NAH;3NE;3NI;3NO;3NU;3NV;3QUA;3QUE;3QUI
AB99;CHiOKEE e a QUO;3QUU;3QUV;3SA;3S;3SE;3SI;3SO;3SU;3SV;3DA;3TA;3DE;3TE;3DI;3TI;3DO;3DU;3DV;3DLA
ABAD;CHiOKEE e a TLA;3TLE;3TLI;3TLO;3TLU;3TLV;3TSA;3TSE;3TSI;3TSO;3TSU;3TSV;3WA;3WE;3WI;3WO;3WU
ABBE;CHiOKEE e a WV;3YA;MEETEI MAYEK a KOK;3SAM;3LAI;3MIT;3PA;3NA;3CHIL;3TIL;3KHOU;3NGOU;3THOU
ABCB;MEETEI MAYEK a WAI;3YANG;3HUK;3UN;3I;3PHAM;3ATIYA;3GOK;3JHAM;3RAI;3BA;3JIL;3DIL;3GHOU;3DHOU
ABDA;MEETEI MAYEK a BHAM;3KOK LONSUM;3LAI LONSUM;3MIT LONSUM;3PA LONSUM;3NA LONSUM;3TIL LONSUM
ABE1;MEETEI MAYEK a NGOU LONSUM;3I LONSUM;2VOWEL n ONAP;4gAP;4ANAP;4YENAP;4SOUNAP;4UNAP;4CHEgAP
ABEA;MEETEI MAYEK VOWEL n NUNG;2CHEIKHEI;2LUM IYEK;2APUN IYEK
ABF0;MEETEI MAYEK DIGIT ZiO;3ONE;3TWO;3THREE;3FOUR;3FIVE;3SIX;3SEVEN;3Ef;3NgE
D7B0;HANGUL JUNGSEONG O-YEO;2O-O-I;2YO-A;2YO-AE;2YO-EO;2U-YEO;2U-I-I;2YU-AE;2YU-O;2EU-A;2EU-EO
D7BB;HANGUL JUNGSEONG EU-E;2EU-O;2I-YA-O;2I-YAE;2I-YEO;2I-YE;2I-O-I;2I-YO;2I-YU;2I-I;2ARAEA-A
D7C6;HANGUL JUNGSEONG ARAEA-E
D7CB;HANGUL JONGSEONG NIEUN-RIEUL;2NIEUN-CHIEUCH;2SSANGTIKEUT;2SSANGTIKEUT-PIEUP;2TIKEUT-PIEUP
D7D0;HANGUL JONGSEONG TIKEUT-SIOS;2TIKEUT-SIOS-KIYEOK;2TIKEUT-CIEUC;2TIKEUT-CHIEUCH
D7D4;HANGUL JONGSEONG TIKEUT-THIEUTH;2RIEUL-SSANGKIYEOK;2RIEUL-KIYEOK-HIEUH;2SSANGRIEUL-KHIEUKH
D7D8;HANGUL JONGSEONG RIEUL-MIEUM-HIEUH;2RIEUL-PIEUP-TIKEUT;2RIEUL-PIEUP-PHIEUPH;2RIEUL-YESIEUNG
D7DC;HANGUL JONGSEONG RIEUL-YEORgHIEUH-HIEUH;2KAPYEOUNRIEUL;2MIEUM-NIEUN;2MIEUM-SSANGNIEUN
D7E0;HANGUL JONGSEONG SSANGMIEUM;2MIEUM-PIEUP-SIOS;2MIEUM-CIEUC;2PIEUP-TIKEUT;2PIEUP-RIEUL-PHIEUPH
D7E5;HANGUL JONGSEONG PIEUP-MIEUM;2SSANGPIEUP;2PIEUP-SIOS-TIKEUT;2PIEUP-CIEUC;2PIEUP-CHIEUCH
D7EA;HANGUL JONGSEONG SIOS-MIEUM;2SIOS-KAPYEOUNPIEUP;2SSANGSIOS-KIYEOK;2SSANGSIOS-TIKEUT
D7EE;HANGUL JONGSEONG SIOS-PANSIOS;2SIOS-CIEUC;2SIOS-CHIEUCH;2SIOS-THIEUTH;2SIOS-HIEUH
D7F3;HANGUL JONGSEONG PANSIOS-PIEUP;2PANSIOS-KAPYEOUNPIEUP;2YESIEUNG-MIEUM;2YESIEUNG-HIEUH
D7F7;HANGUL JONGSEONG CIEUC-PIEUP;2CIEUC-SSANGPIEUP;2SSANGCIEUC;2PHIEUPH-SIOS;2PHIEUPH-THIEUTH
FB00;LATg e LIGATURE FF;3FI;3FL;3FFI;3FFL;3LONG S T;3ST
FB13;ARMENIAN e LIGATURE MEN NOW;4ECH;4gI;3VEW NOW;3MEN XEH
FB1D;HEBREW a YOD c HIRIQ;1POgT JUDEO-SPANISH VARIKA;1LIGATURE YIDDISH YOD YOD PATAH
FB20;HEBREW a ALTiNATIVE AYg;2WIDE ALEF;3DALET;3HE;3KAF;3LAMm;3FgAL MEM;3RESH;3TAV
FB29;HEBREW a ALTiNATIVE PLUS n;2SHg c SHg s;4Sg s;4DAGESH l SHg s;6Sg s;2ALEF c PATAH;4QAMATS
FB30;HEBREW a ALEF c MAPIQ;2BET c DAGESH;2GIMEL c DAGESH;2DALET c DAGESH;2HE c MAPIQ;2VAV c DAGESH
FB36;HEBREW a ZAYg c DAGESH
FB38;HEBREW a TET c DAGESH;2YOD c DAGESH;2FgAL KAF c DAGESH;2KAF c DAGESH;2LAMm c DAGESH
FB3E;HEBREW a MEM c DAGESH
FB40;HEBREW a NUN c DAGESH;2SAMEKH c DAGESH
FB43;HEBREW a FgAL PE c DAGESH;2PE c DAGESH
FB46;HEBREW a TSADI c DAGESH;2QOF c DAGESH;2RESH c DAGESH;2SHg c DAGESH;2TAV c DAGESH;2VAV c HOLAM
FB4C;HEBREW a BET c RAFE;2KAF c RAFE;2PE c RAFE;1LIGATURE ALEF LAMm;ARABIC a ALEF WASLA ISOLATm j
FB51;ARABIC a ALEF WASLA FgAL j;2BEEH ISOLATm j;3FgAL j;3gITIAL j;3MmIAL j;2PEH ISOLATm j;3FgAL j
FB58;ARABIC a PEH gITIAL j;3MmIAL j;2BEHEH ISOLATm j;3FgAL j;3gITIAL j;3MmIAL j;2TTEHEH ISOLATm j
FB5F;ARABIC a TTEHEH FgAL j;3gITIAL j;3MmIAL j;2TEHEH ISOLATm j;3FgAL j;3gITIAL j;3MmIAL j
FB66;ARABIC a TTEH ISOLATm j;3FgAL j;3gITIAL j;3MmIAL j;2VEH ISOLATm j;3FgAL j;3gITIAL j;3MmIAL j
FB6E;ARABIC a PEHEH ISOLATm j;3FgAL j;3gITIAL j;3MmIAL j;2DYEH ISOLATm j;3FgAL j;3gITIAL j
FB75;ARABIC a DYEH MmIAL j;2NYEH ISOLATm j;3FgAL j;3gITIAL j;3MmIAL j;2TCHEH ISOLATm j;3FgAL j
FB7C;ARABIC a TCHEH gITIAL j;3MmIAL j;2TCHEHEH ISOLATm j;3FgAL j;3gITIAL j;3MmIAL j
FB82;ARABIC a DDAHAL ISOLATm j;3FgAL j;2DAHAL ISOLATm j;3FgAL j;2DUL ISOLATm j;3FgAL j
FB88;ARABIC a DDAL ISOLATm j;3FgAL j;2JEH ISOLATm j;3FgAL j;2RREH ISOLATm j;3FgAL j
FB8E;ARABIC a KEHEH ISOLATm j;3FgAL j;3gITIAL j;3MmIAL j;2GAF ISOLATm j;3FgAL j;3gITIAL j;3MmIAL j
FB96;ARABIC a GUEH ISOLATm j;3FgAL j;3gITIAL j;3MmIAL j;2NGOEH ISOLATm j;3FgAL j;3gITIAL j
FB9D;ARABIC a NGOEH MmIAL j;2NOON GHUNNA ISOLATm j;4FgAL j;2RNOON ISOLATm j;3FgAL j;3gITIAL j
FBA3;ARABIC a RNOON MmIAL j;2HEH c YEH q ISOLATm j;6FgAL j;3GOAL ISOLATm j;4FgAL j;4gITIAL j
FBA9;ARABIC a HEH GOAL MmIAL j;3DOACHASHMEE ISOLATm j;4FgAL j;4gITIAL j;4MmIAL j
FBAE;ARABIC a YEH BARREE ISOLATm j;4FgAL j;4c HAMZA q ISOLATm j;7FgAL j;1u s q;3x;2TWO sS q;4x
FBB6;ARABIC u THREE sS q;4x;4POgTgG DOWNk q;6x;2FOUR sS q;4x;2r ViTICAL BAR x;2TWO sS ViTICALLY q
FBBE;ARABIC u TWO sS ViTICALLY x;2RgG;2e TAH q;4x;2WASLA q
FBD3;ARABIC a NG ISOLATm j;3FgAL j;3gITIAL j;3MmIAL j;2U ISOLATm j;3FgAL j;2OE ISOLATm j;3FgAL j
FBDB;ARABIC a YU ISOLATm j;3FgAL j;2U c HAMZA q ISOLATm j;2VE ISOLATm j;3FgAL j
FBE0;ARABIC a KIRGHIZ OE ISOLATm j;4FgAL j;3YU ISOLATm j;4FgAL j;2E ISOLATm j;3FgAL j;3gITIAL j
FBE7;ARABIC a E MmIAL j;2UIGHUR KAZAKH KIRGHIZ ALEF MAKSURA gITIAL j;7MmIAL j
FBEA;ARABIC LIGATURE YEH c HAMZA q c ALEF ISOLATm j;8FgAL j;7AE ISOLATm j;8FgAL j;7WAW ISOLATm j
FBEF;ARABIC LIGATURE YEH c HAMZA q c WAW FgAL j;7U ISOLATm j;8FgAL j;7OE ISOLATm j;8FgAL j
FBF4;ARABIC LIGATURE YEH c HAMZA q c YU ISOLATm j;8FgAL j;7E ISOLATm j;8FgAL j;8gITIAL j
FBF9;ARABIC LIGATURE UIGHUR KIRGHIZ YEH c HAMZA q c ALEF MAKSURA ISOLATm j;9ALEF MAKSURA FgAL j
FBFB;ARABIC LIGATURE UIGHUR KIRGHIZ YEH c HAMZA q c ALEF MAKSURA gITIAL j;1a FARSI YEH ISOLATm j
FBFD;ARABIC a FARSI YEH FgAL j;4gITIAL j;4MmIAL j;1LIGATURE YEH c HAMZA q c JEEM ISOLATm j
FC01;ARABIC LIGATURE YEH c HAMZA q c HAH ISOLATm j;7MEEM ISOLATm j;7ALEF MAKSURA ISOLATm j
FC04;ARABIC LIGATURE YEH c HAMZA q c YEH ISOLATm j;2BEH c JEEM ISOLATm j;4HAH ISOLATm j
FC07;ARABIC LIGATURE BEH c KHAH ISOLATm j;4MEEM ISOLATm j;4ALEF MAKSURA ISOLATm j;4YEH ISOLATm j
FC0B;ARABIC LIGATURE TEH c JEEM ISOLATm j;4HAH ISOLATm j;4KHAH ISOLATm j;4MEEM ISOLATm j
FC0F;ARABIC LIGATURE TEH c ALEF MAKSURA ISOLATm j;4YEH ISOLATm j;2THEH c JEEM ISOLATm j
FC12;ARABIC LIGATURE THEH c MEEM ISOLATm j;4ALEF MAKSURA ISOLATm j;4YEH ISOLATm j
FC15;ARABIC LIGATURE JEEM c HAH ISOLATm j;4MEEM ISOLATm j;2HAH c JEEM ISOLATm j;4MEEM ISOLATm j
FC19;ARABIC LIGATURE KHAH c JEEM ISOLATm j;4HAH ISOLATm j;4MEEM ISOLATm j;2SEEN c JEEM ISOLATm j
FC1D;ARABIC LIGATURE SEEN c HAH ISOLATm j;4KHAH ISOLATm j;4MEEM ISOLATm j;2SAD c HAH ISOLATm j
FC21;ARABIC LIGATURE SAD c MEEM ISOLATm j;2DAD c JEEM ISOLATm j;4HAH ISOLATm j;4KHAH ISOLATm j
FC25;ARABIC LIGATURE DAD c MEEM ISOLATm j;2TAH c HAH ISOLATm j;4MEEM ISOLATm j
FC28;ARABIC LIGATURE ZAH c MEEM ISOLATm j;2Ag c JEEM ISOLATm j;4MEEM ISOLATm j
FC2B;ARABIC LIGATURE GHAg c JEEM ISOLATm j;4MEEM ISOLATm j;2FEH c JEEM ISOLATm j;4HAH ISOLATm j
FC2F;ARABIC LIGATURE FEH c KHAH ISOLATm j;4MEEM ISOLATm j;4ALEF MAKSURA ISOLATm j;4YEH ISOLATm j
FC33;ARABIC LIGATURE QAF c HAH ISOLATm j;4MEEM ISOLATm j;4ALEF MAKSURA ISOLATm j;4YEH ISOLATm j
FC37;ARABIC LIGATURE KAF c ALEF ISOLATm j;4JEEM ISOLATm j;4HAH ISOLATm j;4KHAH ISOLATm j
FC3B;ARABIC LIGATURE KAF c LAM ISOLATm j;4MEEM ISOLATm j;4ALEF MAKSURA ISOLATm j;4YEH ISOLATm j
FC3F;ARABIC LIGATURE LAM c JEEM ISOLATm j;4HAH ISOLATm j;4KHAH ISOLATm j;4MEEM ISOLATm j
FC43;ARABIC LIGATURE LAM c ALEF MAKSURA ISOLATm j;4YEH ISOLATm j;2MEEM c JEEM ISOLATm j
FC46;ARABIC LIGATURE MEEM c HAH ISOLATm j;4KHAH ISOLATm j;4MEEM ISOLATm j;4ALEF MAKSURA ISOLATm j
FC4A;ARABIC LIGATURE MEEM c YEH ISOLATm j;2NOON c JEEM ISOLATm j;4HAH ISOLATm j;4KHAH ISOLATm j
FC4E;ARABIC LIGATURE NOON c MEEM ISOLATm j;4ALEF MAKSURA ISOLATm j;4YEH ISOLATm j
FC51;ARABIC LIGATURE HEH c JEEM ISOLATm j;4MEEM ISOLATm j;4ALEF MAKSURA ISOLATm j;4YEH ISOLATm j
FC55;ARABIC LIGATURE YEH c JEEM ISOLATm j;4HAH ISOLATm j;4KHAH ISOLATm j;4MEEM ISOLATm j
FC59;ARABIC LIGATURE YEH c ALEF MAKSURA ISOLATm j;4YEH ISOLATm j;2THAL c SUPiSCRIPT ALEF ISOLATm j
FC5C;ARABIC LIGATURE REH c SUPiSCRIPT ALEF ISOLATm j;2ALEF MAKSURA c SUPiSCRIPT ALEF ISOLATm j
FC5E;ARABIC LIGATURE SHADDA c DAMMATAN ISOLATm j;4KASRATAN ISOLATm j;4FATHA ISOLATm j
FC61;ARABIC LIGATURE SHADDA c DAMMA ISOLATm j;4KASRA ISOLATm j;4SUPiSCRIPT ALEF ISOLATm j
FC64;ARABIC LIGATURE YEH c HAMZA q c REH FgAL j;7ZAg FgAL j;7MEEM FgAL j;7NOON FgAL j
FC68;ARABIC LIGATURE YEH c HAMZA q c ALEF MAKSURA FgAL j;7YEH FgAL j;2BEH c REH FgAL j;4ZAg FgAL j
FC6C;ARABIC LIGATURE BEH c MEEM FgAL j;4NOON FgAL j;4ALEF MAKSURA FgAL j;4YEH FgAL j
FC70;ARABIC LIGATURE TEH c REH FgAL j;4ZAg FgAL j;4MEEM FgAL j;4NOON FgAL j;4ALEF MAKSURA FgAL j
FC75;ARABIC LIGATURE TEH c YEH FgAL j;2THEH c REH FgAL j;4ZAg FgAL j;4MEEM FgAL j;4NOON FgAL j
FC7A;ARABIC LIGATURE THEH c ALEF MAKSURA FgAL j;4YEH FgAL j;2FEH c ALEF MAKSURA FgAL j;4YEH FgAL j
FC7E;ARABIC LIGATURE QAF c ALEF MAKSURA FgAL j;4YEH FgAL j;2KAF c ALEF FgAL j;4LAM FgAL j
FC82;ARABIC LIGATURE KAF c MEEM FgAL j;4ALEF MAKSURA FgAL j;4YEH FgAL j;2LAM c MEEM FgAL j
FC86;ARABIC LIGATURE LAM c ALEF MAKSURA FgAL j;4YEH FgAL j;2MEEM c ALEF FgAL j;4MEEM FgAL j
FC8A;ARABIC LIGATURE NOON c REH FgAL j;4ZAg FgAL j;4MEEM FgAL j;4NOON FgAL j;4ALEF MAKSURA FgAL j
FC8F;ARABIC LIGATURE NOON c YEH FgAL j;2ALEF MAKSURA c SUPiSCRIPT ALEF FgAL j;2YEH c REH FgAL j
FC92;ARABIC LIGATURE YEH c ZAg FgAL j;4MEEM FgAL j;4NOON FgAL j;4ALEF MAKSURA FgAL j;4YEH FgAL j
FC97;ARABIC LIGATURE YEH c HAMZA q c JEEM gITIAL j;7HAH gITIAL j;7KHAH gITIAL j;7MEEM gITIAL j
FC9B;ARABIC LIGATURE YEH c HAMZA q c HEH gITIAL j;2BEH c JEEM gITIAL j;4HAH gITIAL j
FC9E;ARABIC LIGATURE BEH c KHAH gITIAL j;4MEEM gITIAL j;4HEH gITIAL j;2TEH c JEEM gITIAL j
FCA2;ARABIC LIGATURE TEH c HAH gITIAL j;4KHAH gITIAL j;4MEEM gITIAL j;4HEH gITIAL j
FCA6;ARABIC LIGATURE THEH c MEEM gITIAL j;2JEEM c HAH gITIAL j;4MEEM gITIAL j;2HAH c JEEM gITIAL j
FCAA;ARABIC LIGATURE HAH c MEEM gITIAL j;2KHAH c JEEM gITIAL j;4MEEM gITIAL j
FCAD;ARABIC LIGATURE SEEN c JEEM gITIAL j;4HAH gITIAL j;4KHAH gITIAL j;4MEEM gITIAL j
FCB1;ARABIC LIGATURE SAD c HAH gITIAL j;4KHAH gITIAL j;4MEEM gITIAL j;2DAD c JEEM gITIAL j
FCB5;ARABIC LIGATURE DAD c HAH gITIAL j;4KHAH gITIAL j;4MEEM gITIAL j;2TAH c HAH gITIAL j
FCB9;ARABIC LIGATURE ZAH c MEEM gITIAL j;2Ag c JEEM gITIAL j;4MEEM gITIAL j;2GHAg c JEEM gITIAL j
FCBD;ARABIC LIGATURE GHAg c MEEM gITIAL j;2FEH c JEEM gITIAL j;4HAH gITIAL j;4KHAH gITIAL j
FCC1;ARABIC LIGATURE FEH c MEEM gITIAL j;2QAF c HAH gITIAL j;4MEEM gITIAL j;2KAF c JEEM gITIAL j
FCC5;ARABIC LIGATURE KAF c HAH gITIAL j;4KHAH gITIAL j;4LAM gITIAL j;4MEEM gITIAL j
FCC9;ARABIC LIGATURE LAM c JEEM gITIAL j;4HAH gITIAL j;4KHAH gITIAL j;4MEEM gITIAL j;4HEH gITIAL j
FCCE;ARABIC LIGATURE MEEM c JEEM gITIAL j;4HAH gITIAL j;4KHAH gITIAL j;4MEEM gITIAL j
FCD2;ARABIC LIGATURE NOON c JEEM gITIAL j;4HAH gITIAL j;4KHAH gITIAL j;4MEEM gITIAL j
FCD6;ARABIC LIGATURE NOON c HEH gITIAL j;2HEH c JEEM gITIAL j;4MEEM gITIAL j
FCD9;ARABIC LIGATURE HEH c SUPiSCRIPT ALEF gITIAL j;2YEH c JEEM gITIAL j;4HAH gITIAL j
FCDC;ARABIC LIGATURE YEH c KHAH gITIAL j;4MEEM gITIAL j;4HEH gITIAL j;4HAMZA q c MEEM MmIAL j
FCE0;ARABIC LIGATURE YEH c HAMZA q c HEH MmIAL j;2BEH c MEEM MmIAL j;4HEH MmIAL j
FCE3;ARABIC LIGATURE TEH c MEEM MmIAL j;4HEH MmIAL j;2THEH c MEEM MmIAL j;4HEH MmIAL j
FCE7;ARABIC LIGATURE SEEN c MEEM MmIAL j;4HEH MmIAL j;2SHEEN c MEEM MmIAL j;4HEH MmIAL j
FCEB;ARABIC LIGATURE KAF c LAM MmIAL j;4MEEM MmIAL j;2LAM c MEEM MmIAL j;2NOON c MEEM MmIAL j
FCEF;ARABIC LIGATURE NOON c HEH MmIAL j;2YEH c MEEM MmIAL j;4HEH MmIAL j;2SHADDA c FATHA MmIAL j
FCF3;ARABIC LIGATURE SHADDA c DAMMA MmIAL j;4KASRA MmIAL j;2TAH c ALEF MAKSURA ISOLATm j
FCF6;ARABIC LIGATURE TAH c YEH ISOLATm j;2Ag c ALEF MAKSURA ISOLATm j;4YEH ISOLATm j
FCF9;ARABIC LIGATURE GHAg c ALEF MAKSURA ISOLATm j;4YEH ISOLATm j;2SEEN c ALEF MAKSURA ISOLATm j
FCFC;ARABIC LIGATURE SEEN c YEH ISOLATm j;2SHEEN c ALEF MAKSURA ISOLATm j;4YEH ISOLATm j
FCFF;ARABIC LIGATURE HAH c ALEF MAKSURA ISOLATm j;4YEH ISOLATm j;2JEEM c ALEF MAKSURA ISOLATm j
FD02;ARABIC LIGATURE JEEM c YEH ISOLATm j;2KHAH c ALEF MAKSURA ISOLATm j;4YEH ISOLATm j
FD05;ARABIC LIGATURE SAD c ALEF MAKSURA ISOLATm j;4YEH ISOLATm j;2DAD c ALEF MAKSURA ISOLATm j
FD08;ARABIC LIGATURE DAD c YEH ISOLATm j;2SHEEN c JEEM ISOLATm j;4HAH ISOLATm j;4KHAH ISOLATm j
FD0C;ARABIC LIGATURE SHEEN c MEEM ISOLATm j;4REH ISOLATm j;2SEEN c REH ISOLATm j
FD0F;ARABIC LIGATURE SAD c REH ISOLATm j;2DAD c REH ISOLATm j;2TAH c ALEF MAKSURA FgAL j
FD12;ARABIC LIGATURE TAH c YEH FgAL j;2Ag c ALEF MAKSURA FgAL j;4YEH FgAL j
FD15;ARABIC LIGATURE GHAg c ALEF MAKSURA FgAL j;4YEH FgAL j;2SEEN c ALEF MAKSURA FgAL j
FD18;ARABIC LIGATURE SEEN c YEH FgAL j;2SHEEN c ALEF MAKSURA FgAL j;4YEH FgAL j
FD1B;ARABIC LIGATURE HAH c ALEF MAKSURA FgAL j;4YEH FgAL j;2JEEM c ALEF MAKSURA FgAL j;4YEH FgAL j
FD1F;ARABIC LIGATURE KHAH c ALEF MAKSURA FgAL j;4YEH FgAL j;2SAD c ALEF MAKSURA FgAL j;4YEH FgAL j
FD23;ARABIC LIGATURE DAD c ALEF MAKSURA FgAL j;4YEH FgAL j;2SHEEN c JEEM FgAL j;4HAH FgAL j
FD27;ARABIC LIGATURE SHEEN c KHAH FgAL j;4MEEM FgAL j;4REH FgAL j;2SEEN c REH FgAL j
FD2B;ARABIC LIGATURE SAD c REH FgAL j;2DAD c REH FgAL j;2SHEEN c JEEM gITIAL j;4HAH gITIAL j
FD2F;ARABIC LIGATURE SHEEN c KHAH gITIAL j;4MEEM gITIAL j;2SEEN c HEH gITIAL j
FD32;ARABIC LIGATURE SHEEN c HEH gITIAL j;2TAH c MEEM gITIAL j;2SEEN c JEEM MmIAL j;4HAH MmIAL j
FD36;ARABIC LIGATURE SEEN c KHAH MmIAL j;2SHEEN c JEEM MmIAL j;4HAH MmIAL j;4KHAH MmIAL j
FD3A;ARABIC LIGATURE TAH c MEEM MmIAL j;2ZAH c MEEM MmIAL j;2ALEF c FATHATAN FgAL j;5ISOLATm j
FD3E;ORNATE p PARENTHESIS;1Rf PARENTHESIS;ARABIC LIGATURE RAHIMAHU ALLAAH;2RADI ALLAAHU ANH;4ANHAA
FD43;ARABIC LIGATURE RADI ALLAAHU ANHUM;4ANHUMAA;4ANHUNNA;2SALLALLAAHU ALAYHI WA-AALIH
FD47;ARABIC LIGATURE ALAYHI AS-SALAAM;2ALAYHIM AS-SALAAM;2ALAYHIMAA AS-SALAAM
FD4A;ARABIC LIGATURE ALAYHI AS-SALAATU WAS-SALAAM;2QUDDISA SIRRAH
FD4C;ARABIC LIGATURE SALLALLAHU ALAYHI WAAALIHEE WA-SALLAM;2ALAYHAA AS-SALAAM
FD4E;ARABIC LIGATURE TABAARAKA WA-TAAALAA;2RAHIMAHUM ALLAAH;2TEH c JEEM c MEEM gITIAL j
FD51;ARABIC LIGATURE TEH c HAH c JEEM FgAL j;7gITIAL j;6MEEM gITIAL j;4KHAH c MEEM gITIAL j
FD55;ARABIC LIGATURE TEH c MEEM c JEEM gITIAL j;6HAH gITIAL j;6KHAH gITIAL j
FD58;ARABIC LIGATURE JEEM c MEEM c HAH FgAL j;7gITIAL j;2HAH c MEEM c YEH FgAL j
FD5B;ARABIC LIGATURE HAH c MEEM c ALEF MAKSURA FgAL j;2SEEN c HAH c JEEM gITIAL j
FD5D;ARABIC LIGATURE SEEN c JEEM c HAH gITIAL j;6ALEF MAKSURA FgAL j;4MEEM c HAH FgAL j;7gITIAL j
FD61;ARABIC LIGATURE SEEN c MEEM c JEEM gITIAL j;6MEEM FgAL j;7gITIAL j;2SAD c HAH c HAH FgAL j
FD65;ARABIC LIGATURE SAD c HAH c HAH gITIAL j;4MEEM c MEEM FgAL j;2SHEEN c HAH c MEEM FgAL j
FD68;ARABIC LIGATURE SHEEN c HAH c MEEM gITIAL j;4JEEM c YEH FgAL j;4MEEM c KHAH FgAL j;7gITIAL j
FD6C;ARABIC LIGATURE SHEEN c MEEM c MEEM FgAL j;7gITIAL j;2DAD c HAH c ALEF MAKSURA FgAL j
FD6F;ARABIC LIGATURE DAD c KHAH c MEEM FgAL j;7gITIAL j;2TAH c MEEM c HAH FgAL j;7gITIAL j
FD73;ARABIC LIGATURE TAH c MEEM c MEEM gITIAL j;6YEH FgAL j;2Ag c JEEM c MEEM FgAL j
FD76;ARABIC LIGATURE Ag c MEEM c MEEM FgAL j;7gITIAL j;6ALEF MAKSURA FgAL j
FD79;ARABIC LIGATURE GHAg c MEEM c MEEM FgAL j;6YEH FgAL j;6ALEF MAKSURA FgAL j
FD7C;ARABIC LIGATURE FEH c KHAH c MEEM FgAL j;7gITIAL j;2QAF c MEEM c HAH FgAL j;6MEEM FgAL j
FD80;ARABIC LIGATURE LAM c HAH c MEEM FgAL j;6YEH FgAL j;6ALEF MAKSURA FgAL j
FD83;ARABIC LIGATURE LAM c JEEM c JEEM gITIAL j;7FgAL j;4KHAH c MEEM FgAL j;7gITIAL j
FD87;ARABIC LIGATURE LAM c MEEM c HAH FgAL j;7gITIAL j;2MEEM c HAH c JEEM gITIAL j;6MEEM gITIAL j
FD8B;ARABIC LIGATURE MEEM c HAH c YEH FgAL j;4JEEM c HAH gITIAL j;6MEEM gITIAL j
FD8E;ARABIC LIGATURE MEEM c KHAH c JEEM gITIAL j;6MEEM gITIAL j
FD92;ARABIC LIGATURE MEEM c JEEM c KHAH gITIAL j;2HEH c MEEM c JEEM gITIAL j;6MEEM gITIAL j
FD95;ARABIC LIGATURE NOON c HAH c MEEM gITIAL j;6ALEF MAKSURA FgAL j;4JEEM c MEEM FgAL j;7gITIAL j
FD99;ARABIC LIGATURE NOON c JEEM c ALEF MAKSURA FgAL j;4MEEM c YEH FgAL j;6ALEF MAKSURA FgAL j
FD9C;ARABIC LIGATURE YEH c MEEM c MEEM FgAL j;7gITIAL j;2BEH c KHAH c YEH FgAL j
FD9F;ARABIC LIGATURE TEH c JEEM c YEH FgAL j;6ALEF MAKSURA FgAL j;4KHAH c YEH FgAL j
FDA2;ARABIC LIGATURE TEH c KHAH c ALEF MAKSURA FgAL j;4MEEM c YEH FgAL j;6ALEF MAKSURA FgAL j
FDA5;ARABIC LIGATURE JEEM c MEEM c YEH FgAL j;4HAH c ALEF MAKSURA FgAL j
FDA7;ARABIC LIGATURE JEEM c MEEM c ALEF MAKSURA FgAL j;2SEEN c KHAH c ALEF MAKSURA FgAL j
FDA9;ARABIC LIGATURE SAD c HAH c YEH FgAL j;2SHEEN c HAH c YEH FgAL j;2DAD c HAH c YEH FgAL j
FDAC;ARABIC LIGATURE LAM c JEEM c YEH FgAL j;4MEEM c YEH FgAL j;2YEH c HAH c YEH FgAL j
FDAF;ARABIC LIGATURE YEH c JEEM c YEH FgAL j;4MEEM c YEH FgAL j;2MEEM c MEEM c YEH FgAL j
FDB2;ARABIC LIGATURE QAF c MEEM c YEH FgAL j;2NOON c HAH c YEH FgAL j;2QAF c MEEM c HAH gITIAL j
FDB5;ARABIC LIGATURE LAM c HAH c MEEM gITIAL j;2Ag c MEEM c YEH FgAL j;2KAF c MEEM c YEH FgAL j
FDB8;ARABIC LIGATURE NOON c JEEM c HAH gITIAL j;2MEEM c KHAH c YEH FgAL j
FDBA;ARABIC LIGATURE LAM c JEEM c MEEM gITIAL j;2KAF c MEEM c MEEM FgAL j
FDBC;ARABIC LIGATURE LAM c JEEM c MEEM FgAL j;2NOON c JEEM c HAH FgAL j;2JEEM c HAH c YEH FgAL j
FDBF;ARABIC LIGATURE HAH c JEEM c YEH FgAL j;2MEEM c JEEM c YEH FgAL j;2FEH c MEEM c YEH FgAL j
FDC2;ARABIC LIGATURE BEH c HAH c YEH FgAL j;2KAF c MEEM c MEEM gITIAL j;2Ag c JEEM c MEEM gITIAL j
FDC5;ARABIC LIGATURE SAD c MEEM c MEEM gITIAL j;2SEEN c KHAH c YEH FgAL j
FDC7;ARABIC LIGATURE NOON c JEEM c YEH FgAL j
FDCF;ARABIC LIGATURE SALAAMUHU ALAYNAA
FDF0;ARABIC LIGATURE SALLA USm AS KORANIC STOP n ISOLATm j;2QALA USm AS KORANIC STOP n ISOLATm j
FDF2;ARABIC LIGATURE ALLAH ISOLATm j;2AKBAR ISOLATm j;2MOHAMMAD ISOLATm j;2SALAM ISOLATm j
FDF6;ARABIC LIGATURE RASOUL ISOLATm j;2ALAYHE ISOLATm j;2WASALLAM ISOLATm j;2SALLA ISOLATm j
FDFA;ARABIC LIGATURE SALLALLAHOU ALAYHE WASALLAM;2JALLAJALALOUHOU;RIAL n
FDFD;ARABIC LIGATURE BISMILLAH AR-RAHMAN AR-RAHEEM;2SUBHAANAHU WA TAAALAA;2AZZA WA JALL;VARIAv o-1
FE01;VARIAv o-2;1o-3;1o-4;1o-5;1o-6;1o-7;1o-8;1o-9;1o-10;1o-11;1o-12;1o-13;1o-14;1o-15;1o-16
FE10;PRESENTAv j FOR ViTICAL COMMA;4IDEOGRAPHIC COMMA;5FULL STOP;4COLON;4SEMICOLON;4EXCLAMAv MARK
FE16;PRESENTAv j FOR ViTICAL QUESv MARK;4p WHITE LENTICULAR BRACKET;4Rf WHITE LENTICULAR BRAKCET
FE19;PRESENTAv j FOR ViTICAL t ELLIPSIS
FE20;COMBggG LIGATURE p HALF;2Rf HALF;1r TILDE p HALF;3Rf HALF;1MACRON p HALF;2Rf HALF
FE26;COMBggG CONJOggG MACRON;1LIGATURE p HALF x;2Rf HALF x;1TILDE p HALF x;2Rf HALF x
FE2B;COMBggG MACRON p HALF x;2Rf HALF x;1CONJOggG MACRON x;1CYRILLIC TITLO p HALF;3Rf HALF
FE30;PRESENTAv j FOR ViTICAL TWO s LEADi;4EM DASH;4EN DASH;4LOW LgE;4WAVY LOW LgE;4p PARENTHESIS
FE36;PRESENTAv j FOR ViTICAL Rf PARENTHESIS;4p CURLY BRACKET;4Rf CURLY BRACKET
FE39;PRESENTAv j FOR ViTICAL p TORTOISE SHELL BRACKET;4Rf TORTOISE SHELL BRACKET
FE3B;PRESENTAv j FOR ViTICAL p z LENTICULAR BRACKET;4Rf z LENTICULAR BRACKET;4p r ANGLE BRACKET
FE3E;PRESENTAv j FOR ViTICAL Rf r ANGLE BRACKET;4p ANGLE BRACKET;4Rf ANGLE BRACKET
FE41;PRESENTAv j FOR ViTICAL p CORNi BRACKET;4Rf CORNi BRACKET;4p WHITE CORNi BRACKET
FE44;PRESENTAv j FOR ViTICAL Rf WHITE CORNi BRACKET;SESAME s;WHITE SESAME s
FE47;PRESENTAv j FOR ViTICAL p SQUARE BRACKET;4Rf SQUARE BRACKET;DASHm OViLgE;CENTRELgE OViLgE
FE4B;WAVY OViLgE;r WAVY OViLgE;DASHm LOW LgE;CENTRELgE LOW LgE;WAVY LOW LgE;e COMMA
FE51;e IDEOGRAPHIC COMMA;1FULL STOP
FE54;e SEMICOLON;1COLON;1QUESv MARK;1EXCLAMAv MARK;1EM DASH;1p PARENTHESIS;1Rf PARENTHESIS
FE5B;e p CURLY BRACKET;1Rf CURLY BRACKET;1p TORTOISE SHELL BRACKET;1Rf TORTOISE SHELL BRACKET
FE5F;e NUMBi n;1AMPiSl;1ASTiISK;1PLUS n;1HYPHEN-MgUS;1LESS-THAN n;1GREATi-THAN n;1EQUALS n
FE68;e REViSE SOLIDUS;1DOLLAR n;1PiCENT n;1COMMiCIAL AT
FE70;ARABIC FATHATAN ISOLATm j;1TATWEEL c FATHATAN q;1DAMMATAN ISOLATm j;1TAIL FRAGMENT
FE74;ARABIC KASRATAN ISOLATm j
FE76;ARABIC FATHA ISOLATm j;2MmIAL j;1DAMMA ISOLATm j;2MmIAL j;1KASRA ISOLATm j;2MmIAL j
FE7C;ARABIC SHADDA ISOLATm j;2MmIAL j;1SUKUN ISOLATm j;2MmIAL j;1a HAMZA ISOLATm j
FE81;ARABIC a ALEF c MADDA q ISOLATm j;6FgAL j;4HAMZA q ISOLATm j;6FgAL j;2WAW c HAMZA q ISOLATm j
FE86;ARABIC a WAW c HAMZA q FgAL j;2ALEF c HAMZA x ISOLATm j;6FgAL j;2YEH c HAMZA q ISOLATm j
FE8A;ARABIC a YEH c HAMZA q FgAL j;6gITIAL j;6MmIAL j;2ALEF ISOLATm j;3FgAL j;2BEH ISOLATm j
FE90;ARABIC a BEH FgAL j;3gITIAL j;3MmIAL j;2TEH MARBUTA ISOLATm j;4FgAL j;3ISOLATm j;3FgAL j
FE97;ARABIC a TEH gITIAL j;3MmIAL j;2THEH ISOLATm j;3FgAL j;3gITIAL j;3MmIAL j;2JEEM ISOLATm j
FE9E;ARABIC a JEEM FgAL j;3gITIAL j;3MmIAL j;2HAH ISOLATm j;3FgAL j;3gITIAL j;3MmIAL j
FEA5;ARABIC a KHAH ISOLATm j;3FgAL j;3gITIAL j;3MmIAL j;2DAL ISOLATm j;3FgAL j;2THAL ISOLATm j
FEAC;ARABIC a THAL FgAL j;2REH ISOLATm j;3FgAL j;2ZAg ISOLATm j;3FgAL j;2SEEN ISOLATm j;3FgAL j
FEB3;ARABIC a SEEN gITIAL j;3MmIAL j;2SHEEN ISOLATm j;3FgAL j;3gITIAL j;3MmIAL j;2SAD ISOLATm j
FEBA;ARABIC a SAD FgAL j;3gITIAL j;3MmIAL j;2DAD ISOLATm j;3FgAL j;3gITIAL j;3MmIAL j
FEC1;ARABIC a TAH ISOLATm j;3FgAL j;3gITIAL j;3MmIAL j;2ZAH ISOLATm j;3FgAL j;3gITIAL j;3MmIAL j
FEC9;ARABIC a Ag ISOLATm j;3FgAL j;3gITIAL j;3MmIAL j;2GHAg ISOLATm j;3FgAL j;3gITIAL j;3MmIAL j
FED1;ARABIC a FEH ISOLATm j;3FgAL j;3gITIAL j;3MmIAL j;2QAF ISOLATm j;3FgAL j;3gITIAL j;3MmIAL j
FED9;ARABIC a KAF ISOLATm j;3FgAL j;3gITIAL j;3MmIAL j;2LAM ISOLATm j;3FgAL j;3gITIAL j;3MmIAL j
FEE1;ARABIC a MEEM ISOLATm j;3FgAL j;3gITIAL j;3MmIAL j;2NOON ISOLATm j;3FgAL j;3gITIAL j;3MmIAL j
FEE9;ARABIC a HEH ISOLATm j;3FgAL j;3gITIAL j;3MmIAL j;2WAW ISOLATm j;3FgAL j
FEEF;ARABIC a ALEF MAKSURA ISOLATm j;4FgAL j;2YEH ISOLATm j;3FgAL j;3gITIAL j;3MmIAL j
FEF5;ARABIC LIGATURE LAM c ALEF c MADDA q ISOLATm j;8FgAL j;6HAMZA q ISOLATm j;8FgAL j
FEF9;ARABIC LIGATURE LAM c ALEF c HAMZA x ISOLATm j;8FgAL j;5ISOLATm j;5FgAL j
FEFF;ZiO WIDTH NO-BREAK SPACE
FF01;FULLWIDTH EXCLAMAv MARK;1QUOTAv MARK;1NUMBi n;1DOLLAR n;1PiCENT n;1AMPiSl;1APOSTROPHE
FF08;FULLWIDTH p PARENTHESIS;1Rf PARENTHESIS;1ASTiISK;1PLUS n;1COMMA;1HYPHEN-MgUS;1FULL STOP
FF0F;FULLWIDTH SOLIDUS;1DIGIT ZiO;2ONE;2TWO;2THREE;2FOUR;2FIVE;2SIX;2SEVEN;2Ef;2NgE;1COLON
FF1B;FULLWIDTH SEMICOLON;1LESS-THAN n;1EQUALS n;1GREATi-THAN n;1QUESv MARK;1COMMiCIAL AT
FF21;FULLWIDTH LATg d a A;4B;4C;4D;4E;4F;4G;4H;4I;4J;4K;4L;4M;4N;4O;4P;4Q;4R;4S;4T;4U;4V;4W;4X;4Y
FF3A;FULLWIDTH LATg d a Z;1p SQUARE BRACKET;1REViSE SOLIDUS;1Rf SQUARE BRACKET;1CIRCUMFLEX ACCENT
FF3F;FULLWIDTH LOW LgE;1GRAVE ACCENT;1LATg e a A;4B;4C;4D;4E;4F;4G;4H;4I;4J;4K;4L;4M;4N;4O;4P;4Q
FF52;FULLWIDTH LATg e a R;4S;4T;4U;4V;4W;4X;4Y;4Z;1p CURLY BRACKET;1ViTICAL LgE;1Rf CURLY BRACKET
FF5E;FULLWIDTH TILDE;1p WHITE PARENTHESIS;1Rf WHITE PARENTHESIS;HALFWIDTH IDEOGRAPHIC FULL STOP
FF62;HALFWIDTH p CORNi BRACKET;1Rf CORNi BRACKET;1IDEOGRAPHIC COMMA;1KATAKANA MIDDLE s;2a WO;3e A
FF68;HALFWIDTH KATAKANA a e I;4U;4E;4O;4YA;4YU;4YO;4TU;1KATAKANA-HIRAGANA PROLONGm SOUND MARK
FF71;HALFWIDTH KATAKANA a A;3I;3U;3E;3O;3KA;3KI;3KU;3KE;3KO;3SA;3SI;3SU;3SE;3SO;3TA;3TI;3TU;3TE
FF84;HALFWIDTH KATAKANA a TO;3NA;3NI;3NU;3NE;3NO;3HA;3HI;3HU;3HE;3HO;3MA;3MI;3MU;3ME;3MO;3YA;3YU
FF96;HALFWIDTH KATAKANA a YO;3RA;3RI;3RU;3RE;3RO;3WA;3N;2VOICm SOUND MARK;2SEMI-VOICm SOUND MARK
FFA0;HALFWIDTH HANGUL FILLi;2a KIYEOK;3SSANGKIYEOK;3KIYEOK-SIOS;3NIEUN;3NIEUN-CIEUC;3NIEUN-HIEUH
FFA7;HALFWIDTH HANGUL a TIKEUT;3SSANGTIKEUT;3RIEUL;3RIEUL-KIYEOK;3RIEUL-MIEUM;3RIEUL-PIEUP
FFAD;HALFWIDTH HANGUL a RIEUL-SIOS;3RIEUL-THIEUTH;3RIEUL-PHIEUPH;3RIEUL-HIEUH;3MIEUM;3PIEUP
FFB3;HALFWIDTH HANGUL a SSANGPIEUP;3PIEUP-SIOS;3SIOS;3SSANGSIOS;3IEUNG;3CIEUC;3SSANGCIEUC;3CHIEUCH
FFBB;HALFWIDTH HANGUL a KHIEUKH;3THIEUTH;3PHIEUPH;3HIEUH
FFC2;HALFWIDTH HANGUL a A;3AE;3YA;3YAE;3EO;3E
FFCA;HALFWIDTH HANGUL a YEO;3YE;3O;3WA;3WAE;3OE
FFD2;HALFWIDTH HANGUL a YO;3U;3WEO;3WE;3WI;3YU
FFDA;HALFWIDTH HANGUL a EU;3YI;3I
FFE0;FULLWIDTH CENT n;1POUND n;1NOT n;1MACRON;1BROKEN BAR;1YEN n;1WON n
FFE8;HALFWIDTH jS Lf ViTICAL;1pk h;1UPk h;1Rfk h;1DOWNk h;1z SQUARE;1WHITE CIRCLE
FFF9;gTiLgEAR ANNOTAv ANCHOR;2SEPARATOR;2TiMgATOR;OBJECT REPLACEMENT CHARACTi;REPLACEMENT CHARACTi
10000;LgEAR B SYLLABLE B008 A;3B038 E;3B028 I;3B061 O;3B010 U;3B001 DA;3B045 DE;3B007 DI;3B014 DO
10009;LgEAR B SYLLABLE B051 DU;3B057 JA;3B046 JE
1000D;LgEAR B SYLLABLE B036 JO;3B065 JU;3B077 KA;3B044 KE;3B067 KI;3B070 KO;3B081 KU;3B080 MA
10015;LgEAR B SYLLABLE B013 ME;3B073 MI;3B015 MO;3B023 MU;3B006 NA;3B024 NE;3B030 NI;3B052 NO
1001D;LgEAR B SYLLABLE B055 NU;3B003 PA;3B072 PE;3B039 PI;3B011 PO;3B050 PU;3B016 QA;3B078 QE
10025;LgEAR B SYLLABLE B021 QI;3B032 QO
10028;LgEAR B SYLLABLE B060 RA;3B027 RE;3B053 RI;3B002 RO;3B026 RU;3B031 SA;3B009 SE;3B041 SI
10030;LgEAR B SYLLABLE B012 SO;3B058 SU;3B059 TA;3B004 TE;3B037 TI;3B005 TO;3B069 TU;3B054 WA
10038;LgEAR B SYLLABLE B075 WE;3B040 WI;3B042 WO
1003C;LgEAR B SYLLABLE B017 ZA;3B074 ZE
1003F;LgEAR B SYLLABLE B020 ZO;3B025 A2;3B043 A3;3B085 AU;3B071 DWE;3B090 DWO;3B048 NWA;3B029 PU2
10047;LgEAR B SYLLABLE B062 PTE;3B076 RA2;3B033 RA3;3B068 RO2;3B066 TA2;3B087 TWE;3B091 TWO
10050;LgEAR B u B018;3B019;3B022;3B034;3B047;3B049;3B056;3B063;3B064;3B079;3B082;3B083;3B086;3B089
10080;LgEAR B IDEOGRAM B100 MAN;3B102 WOMAN;3B104 DEi;3B105 EQUID;3B105F MARE;3B105M STALLION
10086;LgEAR B IDEOGRAM B106F EWE;3B106M RAM;3B107F SHE-GOAT;3B107M HE-GOAT;3B108F SOW;3B108M BOAR
1008C;LgEAR B IDEOGRAM B109F COW;3B109M BULL;3B120 WHEAT;3B121 BARLEY;3B122 OLIVE;3B123 SPICE
10092;LgEAR B IDEOGRAM B125 CYPiUS;2MONOGRAM B127 KAPO;3B128 KANAKO;2IDEOGRAM B130 OIL;3B131 WgE
10097;LgEAR B IDEOGRAM B132;2MONOGRAM B133 AREPA;3B135 MiI;2IDEOGRAM B140 BRONZE;3B141 GOLD;3B142
1009D;LgEAR B IDEOGRAM B145 WOOL;3B146;3B150;3B151 HORN;3B152;3B153;3B154;2MONOGRAM B156 TURO2
100A5;LgEAR B IDEOGRAM B157;3B158;3B159 CLOTH;3B160;3B161;3B162 GARMENT;3B163 ARMOUR;3B164;3B165
100AE;LgEAR B IDEOGRAM B166;3B167;3B168;3B169;3B170;3B171;3B172;3B173 MONTH;3B174;3B176 TREE;3B177
100B9;LgEAR B IDEOGRAM B178;3B179;3B180;3B181;3B182;3B183;3B184;3B185;3B189;3B190;3B191 HELMET
100C4;LgEAR B IDEOGRAM B220 FOOTSTOOL;3B225 BATHTUB;3B230 SPEAR;3B231 h;3B232;3B233 SWORD;3B234
100CB;LgEAR B IDEOGRAM B236;3B240 WHEELm CHARIOT;3B241 CHARIOT;3B242 CHARIOT FRAME;3B243 WHEEL
100D0;LgEAR B IDEOGRAM B245;3B246;2MONOGRAM B247 DIPTE;2IDEOGRAM B248;3B249;3B251;3B252;3B253
100D8;LgEAR B IDEOGRAM B254 DART;3B255;3B256;3B257;3B258;3B259;3VESSEL B155;4B200;4B201;4B202
100E2;LgEAR B IDEOGRAM VESSEL B203;4B204;4B205;4B206;4B207;4B208;4B209;4B210;4B211;4B212;4B213
100ED;LgEAR B IDEOGRAM VESSEL B214;4B215;4B216;4B217;4B218;4B219;4B221;4B222;4B226;4B227;4B228
100F8;LgEAR B IDEOGRAM VESSEL B229;4B250;4B305
10100;AEGEAN WORD SEPARATOR LgE;3s;1CHECK MARK
10107;AEGEAN NUMBi ONE;2TWO;2THREE;2FOUR;2FIVE;2SIX;2SEVEN;2Ef;2NgE;2TEN;2TWENTY;2THIRTY;2FORTY
10114;AEGEAN NUMBi FIFTY;2SIXTY;2SEVENTY;2EfY;2NgETY;2ONE HUNDRm;2TWO HUNDRm;2THREE HUNDRm
1011C;AEGEAN NUMBi FOUR HUNDRm;2FIVE HUNDRm;2SIX HUNDRm;2SEVEN HUNDRm;2Ef HUNDRm;2NgE HUNDRm
10122;AEGEAN NUMBi ONE THOUSl;2TWO THOUSl;2THREE THOUSl;2FOUR THOUSl;2FIVE THOUSl;2SIX THOUSl
10128;AEGEAN NUMBi SEVEN THOUSl;2Ef THOUSl;2NgE THOUSl;2TEN THOUSl;2TWENTY THOUSl;2THIRTY THOUSl
1012E;AEGEAN NUMBi FORTY THOUSl;2FIFTY THOUSl;2SIXTY THOUSl;2SEVENTY THOUSl;2EfY THOUSl
10133;AEGEAN NUMBi NgETY THOUSl
10137;AEGEAN WEf BASE UNIT;2FIRST SUBUNIT;2SECOND SUBUNIT;2THIRD SUBUNIT;2FOURTH SUBUNIT
1013C;AEGEAN DRY MEASURE FIRST SUBUNIT;1LIQUID MEASURE FIRST SUBUNIT;1MEASURE SECOND SUBUNIT
1013F;AEGEAN MEASURE THIRD SUBUNIT;GREEK ACROPHONIC ATTIC ONE QUARTi;4HALF;4DRACHMA;3FIVE;3FIFTY
10145;GREEK ACROPHONIC ATTIC FIVE HUNDRm;4THOUSl;3FIFTY THOUSl;3FIVE TALENTS;3TEN TALENTS
1014A;GREEK ACROPHONIC ATTIC FIFTY TALENTS;3ONE HUNDRm TALENTS;3FIVE HUNDRm TALENTS
1014D;GREEK ACROPHONIC ATTIC ONE THOUSl TALENTS;3FIVE THOUSl TALENTS;4STATiS;3TEN STATiS
10151;GREEK ACROPHONIC ATTIC FIFTY STATiS;3ONE HUNDRm STATiS;3FIVE HUNDRm STATiS
10154;GREEK ACROPHONIC ATTIC ONE THOUSl STATiS;3TEN THOUSl STATiS;3FIFTY THOUSl STATiS;3TEN MNAS
10158;GREEK ACROPHONIC HiAEUM ONE PLETHRON;2THESPIAN ONE;2HiMIONIAN ONE;2EPIDAUREAN TWO
1015C;GREEK ACROPHONIC THESPIAN TWO;2CYRENAIC TWO DRACHMAS;2EPIDAUREAN TWO DRACHMAS
1015F;GREEK ACROPHONIC TROEZENIAN FIVE;3TEN;4ALTiNATE j;2HiMIONIAN TEN;2MESSENIAN TEN
10164;GREEK ACROPHONIC THESPIAN TEN;3THIRTY;2TROEZENIAN FIFTY;4ALTiNATE j;2HiMIONIAN FIFTY
10169;GREEK ACROPHONIC THESPIAN FIFTY;3ONE HUNDRm;3THREE HUNDRm;2EPIDAUREAN FIVE HUNDRm
1016D;GREEK ACROPHONIC TROEZENIAN FIVE HUNDRm;2THESPIAN FIVE HUNDRm;2CARYSTIAN FIVE HUNDRm
10170;GREEK ACROPHONIC NAXIAN FIVE HUNDRm;2THESPIAN ONE THOUSl;3FIVE THOUSl;2DELPHIC FIVE MNAS
10174;GREEK ACROPHONIC STRATIAN FIFTY MNAS;1ONE HALF n;4ALTiNATE j;1TWO THIRDS n;1THREE QUARTiS n
10179;GREEK YEAR n;1TALENT n;1DRACHMA n;1OBOL n;1TWO OBOLS n;1THREE OBOLS n;1FOUR OBOLS n
10180;GREEK FIVE OBOLS n;1METRETES n;1KYATHOS BASE n;1LITRA n;1OUNKIA n;1XESTES n;1ARTABE n
10187;GREEK AROURA n;1GRAMMA n;1TRYBLION BASE n;1ZiO n;1ONE QUARTi n;1SgUSOID n;1gDICv n;NOMISMA n
10190;ROMAN SEXTANS n;1UNCIA n;1SEMUNCIA n;1SEXTULA n;1DIMIDIA SEXTULA n;1SILIQUA n;1DENARIUS n
10197;ROMAN QUgARIUS n;1SESTiTIUS n;1DUPONDIUS n;1AS n;1CENTURIAL n;ASCIA u
101A0;GREEK u TAU RHO
101D0;PHAISTOS DISC n PmESTRIAN;3PLUMm HEAD;3TATTOOm HEAD;3CAPTIVE;3CHILD;3WOMAN;3HELMET;3GAUNTLET
101D8;PHAISTOS DISC n TIARA;3h;3BOW;3SHIELD;3CLUB;3MANACLES;3MATTOCK;3SAW;3LID;3BOOMiANG
101E2;PHAISTOS DISC n CARPENTRY PLANE;3DOLIUM;3COMB;3SLgG;3COLUMN;3BEEHIVE;3SHIP;3HORN;3HIDE
101EB;PHAISTOS DISC n BULLS LEG;3CAT;3RAM;3EAGLE;3DOVE;3TUNNY;3BEE;3PLANE TREE;3VgE;3PAPYRUS
101F5;PHAISTOS DISC n ROSETTE;3LILY;3OX BACK;3FLUTE;3GRATi;3STRAgi;3e AXE;3WAVY Bl
101FD;PHAISTOS DISC n COMBggG OBLIQUE y
10280;LYCIAN a A;2E;2B;2BH;2G;2D;2I;2W;2Z;2TH;2J;2K;2Q;2L;2M;2N;2MM;2NN;2U;2P;2KK;2R;2S;2T;2TT;2AN
1029A;LYCIAN a EN;2H;2X
102A0;CARIAN a A;2P2;2D;2L;2UUU;2R;2LD;2A2;2Q;2B;2M;2O;2D2;2T;2SH;2SH2;2S;2C-18;2U;2NN;2X;2N;2TT2
102B7;CARIAN a P;2SS;2I;2E;2UUUU;2K;2K2;2ND;2UU;2G;2G2;2ST;2ST2;2NG;2II;2C-39;2TT;2UUU2;2RR;2MB
102CB;CARIAN a MB2;2MB3;2MB4;2LD2;2E2;2UUU3
102E0;COPTIC EPACT THOUSlS MARK;2DIGIT ONE;3TWO;3THREE;3FOUR;3FIVE;3SIX;3SEVEN;3Ef;3NgE;2NUMBi TEN
102EB;COPTIC EPACT NUMBi TWENTY;3THIRTY;3FORTY;3FIFTY;3SIXTY;3SEVENTY;3EfY;3NgETY;3ONE HUNDRm
102F4;COPTIC EPACT NUMBi TWO HUNDRm;3THREE HUNDRm;3FOUR HUNDRm;3FIVE HUNDRm;3SIX HUNDRm
102F9;COPTIC EPACT NUMBi SEVEN HUNDRm;3Ef HUNDRm;3NgE HUNDRm
10300;OLD ITALIC a A;3BE;3KE;3DE;3E;3VE;3ZE;3HE;3THE;3I;3KA;3EL;3EM;3EN;3ESH;3O;3PE;3SHE;3KU;3i
10314;OLD ITALIC a ES;3TE;3U;3EKS;3PHE;3KHE;3EF;3iS;3CHE;3II;3UU;3ESS;2NUMiAL ONE;3FIVE;3TEN
10323;OLD ITALIC NUMiAL FIFTY
1032D;OLD ITALIC a YE;3NORTHiN TSE;3SOUTHiN TSE;GOTHIC a AHSA;2BAIRKAN;2GIBA;2DAGS;2AIHVUS
10335;GOTHIC a QAIRTHRA;2IUJA;2HAGL;2THIUTH;2EIS;2KUSMA;2LAGUS;2MANNA;2NAUTHS;2Ji;2URUS;2PAIRTHRA
10341;GOTHIC a NgETY;2RAIDA;2SAUIL;2TEIWS;2WgJA;2FAIHU;2IGGWS;2HWAIR;2OTHAL;2NgE HUNDRm
10350;OLD PiMIC a AN;3BUR;3GAI;3DOI;3E;3ZHOI;3DZHOI;3ZATA;3DZITA;3I;3KOKE;3LEI;3MENOE;3NENOE;3VOOI
1035F;OLD PiMIC a PEEI;3REI;3SII;3TAI;3U;3CHiY;3SHOOI;3SHCHOOI;3YRY;3YiU;3O;3OO;3EF;3HA;3TSIU;3Vi
1036F;OLD PiMIC a Yi;3YiI;3YAT;3IE;3YU;3YA;3IA;COMBggG OLD PiMIC a AN;4DOI;4ZATA;4NENOE;4SII
10380;UGARITIC a ALPA;2BETA;2GAMLA;2KHA;2DELTA;2HO;2WO;2ZETA;2HOTA;2TET;2YOD;2KAF;2SHg;2LAMDA;2MEM
1038F;UGARITIC a DHAL;2NUN;2ZU;2SAMKA;2Ag;2PU;2SADE;2QOPA;2RASHA;2THANNA;2GHAg;2TO;2I;2U;2SSU
1039F;UGARITIC WORD DIVIDi;OLD PiSIAN n A;3I;3U;3KA;3KU;3GA;3GU;3XA;3CA;3JA;3JI;3TA;3TU;3DA;3DI
103AF;OLD PiSIAN n DU;3THA;3PA;3BA;3FA;3NA;3NU;3MA;3MI;3MU;3YA;3VA;3VI;3RA;3RU;3LA;3SA;3ZA;3SHA
103C2;OLD PiSIAN n SSA;3HA
103C8;OLD PiSIAN n AURAMAZDAA;3AURAMAZDAA-2;3AURAMAZDAAHA;3XSHAAYATHIYA;3DAHYAAUSH;3DAHYAAUSH-2
103CE;OLD PiSIAN n BAGA;3BUUMISH;2WORD DIVIDi;2NUMBi ONE;3TWO;3TEN;3TWENTY;3HUNDRm
10400;DESiET d a LONG I;4E;4A;4AH;4O;4OO;3SHORT I;4E;4A;4AH;4O;4OO;3AY;3OW;3WU;3YEE;3H;3PEE;3BEE
10413;DESiET d a TEE;3DEE;3CHEE;3JEE;3KAY;3GAY;3EF;3VEE;3ETH;3THEE;3ES;3ZEE;3ESH;3ZHEE;3i;3EL;3EM
10424;DESiET d a EN;3ENG;3OI;3EW;1e a LONG I;4E;4A;4AH;4O;4OO;3SHORT I;4E;4A;4AH;4O;4OO;3AY;3OW
10436;DESiET e a WU;3YEE;3H;3PEE;3BEE;3TEE;3DEE;3CHEE;3JEE;3KAY;3GAY;3EF;3VEE;3ETH;3THEE;3ES;3ZEE
10447;DESiET e a ESH;3ZHEE;3i;3EL;3EM;3EN;3ENG;3OI;3EW;SHAVIAN a PEEP;2TOT;2KICK;2FEE;2THIGH;2SO
10456;SHAVIAN a SURE;2CHURCH;2YEA;2HUNG;2BIB;2DEAD;2GAG;2VOW;2THEY;2ZOO;2MEASURE;2JUDGE;2WOE
10463;SHAVIAN a HA-HA;2LOLL;2MIME;2IF;2EGG;2ASH;2ADO;2ON;2WOOL;2OUT;2AH;2ROAR;2NUN;2EAT;2AGE;2ICE
10473;SHAVIAN a UP;2OAK;2OOZE;2OIL;2AWE;2ARE;2OR;2AIR;2iR;2ARRAY;2EAR;2IAN;2YEW;OSMANYA a ALEF;2BA
10482;OSMANYA a TA;2JA;2XA;2KHA;2DEEL;2RA;2SA;2SHIg;2DHA;2CAYN;2GA;2FA;2QAAF;2KAAF;2LAAN;2MIg
10492;OSMANYA a NUUN;2WAW;2HA;2YA;2A;2E;2I;2O;2U;2AA;2EE;2OO
104A0;OSMANYA DIGIT ZiO;2ONE;2TWO;2THREE;2FOUR;2FIVE;2SIX;2SEVEN;2Ef;2NgE
104B0;OSAGE d a A;3AI;3Ag;3AH;3BRA;3CHA;3EHCHA;3E;3Eg;3HA;3HYA;3I;3KA;3EHKA;3KYA;3LA;3MA;3NA;3O
104C3;OSAGE d a Og;3PA;3EHPA;3SA;3SHA;3TA;3EHTA;3TSA;3EHTSA;3TSHA;3DHA;3U;3WA;3KHA;3GHA;3ZA;3ZHA
104D8;OSAGE e a A;3AI;3Ag;3AH;3BRA;3CHA;3EHCHA;3E;3Eg;3HA;3HYA;3I;3KA;3EHKA;3KYA;3LA;3MA;3NA;3O
104EB;OSAGE e a Og;3PA;3EHPA;3SA;3SHA;3TA;3EHTA;3TSA;3EHTSA;3TSHA;3DHA;3U;3WA;3KHA;3GHA;3ZA;3ZHA
10500;ELBASAN a A;2BE;2CE;2CHE;2DE;2NDE;2DHE;2EI;2E;2FE;2GE;2GJE;2HE;2I;2JE;2KE;2LE;2LLE;2ME;2NE
10514;ELBASAN a NA;2NJE;2O;2PE;2QE;2RE;2RRE;2SE;2SHE;2TE;2THE;2U;2VE;2XE;2Y;2ZE;2ZHE;2GHE;2GHAMMA
10527;ELBASAN a KHE
10530;CAUCASIAN ALBANIAN a ALT;3BET;3GIM;3DAT;3EB;3ZARL;3EYN;3ZHIL;3TAS;3CHA;3YOWD;3ZHA;3IRB;3SHA
1053E;CAUCASIAN ALBANIAN a LAN;3gYA;3XEYN;3DYAN;3CAR;3JHOX;3KAR;3LYIT;3HEYT;3QAY;3AOR;3CHOY;3CHI
1054B;CAUCASIAN ALBANIAN a CYAY;3MAQ;3QAR;3NOWC;3DZYAY;3SHAK;3JAYN;3ON;3TYAY;3FAM;3DZAY;3CHAT;3PEN
10558;CAUCASIAN ALBANIAN a GHEYS;3RAT;3SEYK;3VEYZ;3TIWR;3SHOY;3IWN;3CYAW;3CAYN;3YAYD;3PIWR;3KIW
1056F;CAUCASIAN ALBANIAN CITAv MARK;VITHKUQI d a A;3BBE;3BE;3CE;3CHE;3DE;3DHE;3EI;3E;3FE;3GA
1057C;VITHKUQI d a HA;3HHA;3I;3IJE;3JE;3KA;3LA;3LLA;3ME;3NE;3NJE;3O;3PE;3QA;3RE
1058C;VITHKUQI d a SE;3SHE;3TE;3THE;3U;3VE;3XE
10594;VITHKUQI d a Y;3ZE
10597;VITHKUQI e a A;3BBE;3BE;3CE;3CHE;3DE;3DHE;3EI;3E;3FE;3GA
105A3;VITHKUQI e a HA;3HHA;3I;3IJE;3JE;3KA;3LA;3LLA;3ME;3NE;3NJE;3O;3PE;3QA;3RE
105B3;VITHKUQI e a SE;3SHE;3TE;3THE;3U;3VE;3XE
105BB;VITHKUQI e a Y;3ZE
10600;LgEAR A n AB001;3AB002;3AB003;3AB004;3AB005;3AB006;3AB007;3AB008;3AB009;3AB010;3AB011;3AB013
1060C;LgEAR A n AB016;3AB017;3AB020;3AB021;3AB021F;3AB021M;3AB022;3AB022F;3AB022M;3AB023;3AB023M
10617;LgEAR A n AB024;3AB026;3AB027;3AB028;3A028B;3AB029;3AB030;3AB031;3AB034;3AB037;3AB038;3AB039
10623;LgEAR A n AB040;3AB041;3AB044;3AB045;3AB046;3AB047;3AB048;3AB049;3AB050;3AB051;3AB053;3AB054
1062F;LgEAR A n AB055;3AB056;3AB057;3AB058;3AB059;3AB060;3AB061;3AB065;3AB066;3AB067;3AB069;3AB070
1063B;LgEAR A n AB073;3AB074;3AB076;3AB077;3AB078;3AB079;3AB080;3AB081;3AB082;3AB085;3AB086;3AB087
10647;LgEAR A n A100-102;3AB118;3AB120;3A120B;3AB122;3AB123;3AB131A;3AB131B;3A131C;3AB164;3AB171
10652;LgEAR A n AB180;3AB188;3AB191;3A301;3A302;3A303;3A304;3A305;3A306;3A307;3A308;3A309A;3A309B
1065F;LgEAR A n A309C;3A310;3A311;3A312;3A313A;3A313B;3A313C;3A314;3A315;3A316;3A317;3A318;3A319
1066C;LgEAR A n A320;3A321;3A322;3A323;3A324;3A325;3A326;3A327;3A328;3A329;3A330;3A331;3A332;3A333
1067A;LgEAR A n A334;3A335;3A336;3A337;3A338;3A339;3A340;3A341;3A342;3A343;3A344;3A345;3A346;3A347
10688;LgEAR A n A348;3A349;3A350;3A351;3A352;3A353;3A354;3A355;3A356;3A357;3A358;3A359;3A360;3A361
10696;LgEAR A n A362;3A363;3A364;3A365;3A366;3A367;3A368;3A369;3A370;3A371;3A400-VAS;3A401-VAS
106A2;LgEAR A n A402-VAS;3A403-VAS;3A404-VAS;3A405-VAS;3A406-VAS;3A407-VAS;3A408-VAS;3A409-VAS
106AA;LgEAR A n A410-VAS;3A411-VAS;3A412-VAS;3A413-VAS;3A414-VAS;3A415-VAS;3A416-VAS;3A417-VAS
106B2;LgEAR A n A418-VAS;3A501;3A502;3A503;3A504;3A505;3A506;3A508;3A509;3A510;3A511;3A512;3A513
106BF;LgEAR A n A515;3A516;3A520;3A521;3A523;3A524;3A525;3A526;3A527;3A528;3A529;3A530;3A531;3A532
106CD;LgEAR A n A534;3A535;3A536;3A537;3A538;3A539;3A540;3A541;3A542;3A545;3A547;3A548;3A549;3A550
106DB;LgEAR A n A551;3A552;3A553;3A554;3A555;3A556;3A557;3A559;3A563;3A564;3A565;3A566;3A568;3A569
106E9;LgEAR A n A570;3A571;3A572;3A573;3A574;3A575;3A576;3A577;3A578;3A579;3A580;3A581;3A582;3A583
106F7;LgEAR A n A584;3A585;3A586;3A587;3A588;3A589;3A591;3A592;3A594;3A595;3A596;3A598;3A600;3A601
10705;LgEAR A n A602;3A603;3A604;3A606;3A608;3A609;3A610;3A611;3A612;3A613;3A614;3A615;3A616;3A617
10713;LgEAR A n A618;3A619;3A620;3A621;3A622;3A623;3A624;3A626;3A627;3A628;3A629;3A634;3A637;3A638
10721;LgEAR A n A640;3A642;3A643;3A644;3A645;3A646;3A648;3A649;3A651;3A652;3A653;3A654;3A655;3A656
1072F;LgEAR A n A657;3A658;3A659;3A660;3A661;3A662;3A663;3A664
10740;LgEAR A n A701 A;3A702 B;3A703 D;3A704 E;3A705 F;3A706 H;3A707 J;3A708 K;3A709 L;3A709-2 L2
1074A;LgEAR A n A709-3 L3;3A709-4 L4;3A709-6 L6;3A710 W;3A711 X;3A712 Y;3A713 OMEGA;3A714 ABB
10752;LgEAR A n A715 BB;3A717 DD;3A726 EYYY;3A732 JE
10760;LgEAR A n A800;3A801;3A802;3A803;3A804;3A805;3A806;3A807
10780;MODIFIi a e d AA;2SUPiSCRIPT TRIANGULAR COLON;3HALF TRIANGULAR COLON;2e AE;3d B;3B c HOOK
10787;MODIFIi a e DZ DIGRAPH;5c RETROFLEX HOOK;6CURL;3DEZH DIGRAPH;3D c TAIL;5HOOK;6l TAIL
1078E;MODIFIi a e REViSm E;3CLOSm REViSm OPEN E;3FENG DIGRAPH;3RAMS HORN;3d G;3G c HOOK
10794;MODIFIi a e d G c HOOK;3H c y;3d H;3HENG c HOOK;3sLESS J c y l HOOK;3LS DIGRAPH;3LZ DIGRAPH
1079B;MODIFIi a e L c BELT;3d L c BELT;3L c RETROFLEX HOOK l BELT;3LEZH;4c RETROFLEX HOOK;3TURNm Y
107A1;MODIFIi a e TURNm Y c BELT;3O c y;3d OE;3CLOSm OMEGA;3Q;3TURNm R c LONG LEG
107A7;MODIFIi a e TURNm R c LONG LEG l RETROFLEX HOOK;3R c TAIL;5FISHHOOK;3d R;3TC DIGRAPH c CURL
107AC;MODIFIi a e TS DIGRAPH;5c RETROFLEX HOOK;3TESH DIGRAPH;3T c RETROFLEX HOOK;3V c Rf HOOK
107B2;MODIFIi a e d Y;2GLOTTAL STOP c y;2REViSm GLOTTAL STOP c y;2BILABIAL CLICK;2DENTAL CLICK
107B7;MODIFIi a LATiAL CLICK;2ALVEOLAR CLICK;2RETROFLEX CLICK c RETROFLEX HOOK;2e S c CURL
10800;CYPRIOT SYLLABLE A;2E;2I;2O;2U;2JA
10808;CYPRIOT SYLLABLE JO
1080A;CYPRIOT SYLLABLE KA;2KE;2KI;2KO;2KU;2LA;2LE;2LI;2LO;2LU;2MA;2ME;2MI;2MO;2MU;2NA;2NE;2NI;2NO
1081D;CYPRIOT SYLLABLE NU;2PA;2PE;2PI;2PO;2PU;2RA;2RE;2RI;2RO;2RU;2SA;2SE;2SI;2SO;2SU;2TA;2TE;2TI
10830;CYPRIOT SYLLABLE TO;2TU;2WA;2WE;2WI;2WO
10837;CYPRIOT SYLLABLE XA;2XE
1083C;CYPRIOT SYLLABLE ZA
1083F;CYPRIOT SYLLABLE ZO;IMPiIAL ARAMAIC a ALEPH;3BETH;3GIMEL;3DALETH;3HE;3WAW;3ZAYg;3HETH;3TETH
10849;IMPiIAL ARAMAIC a YODH;3KAPH;3LAMmH;3MEM;3NUN;3SAMEKH;3AYg;3PE;3SADHE;3QOPH;3RESH;3SHg;3TAW
10857;IMPiIAL ARAMAIC SECv n;2NUMBi ONE;3TWO;3THREE;3TEN;3TWENTY;3ONE HUNDRm;4THOUSl;3TEN THOUSl
10860;PALMYRENE a ALEPH;2BETH;2GIMEL;2DALETH;2HE;2WAW;2ZAYg;2HETH;2TETH;2YODH;2KAPH;2LAMmH;2MEM
1086D;PALMYRENE a FgAL NUN;2NUN;2SAMEKH;2AYg;2PE;2SADHE;2QOPH;2RESH;2SHg;2TAW;1p-POgTgG FLEURON
10878;PALMYRENE Rf-POgTgG FLEURON;1NUMBi ONE;2TWO;2THREE;2FOUR;2FIVE;2TEN;2TWENTY
10880;NABATAEAN a FgAL ALEPH;2ALEPH;2FgAL BETH;2BETH;2GIMEL;2DALETH;2FgAL HE;2HE;2WAW;2ZAYg;2HETH
1088B;NABATAEAN a TETH;2FgAL YODH;2YODH;2FgAL KAPH;2KAPH;2FgAL LAMmH;2LAMmH;2FgAL MEM;2MEM
10894;NABATAEAN a FgAL NUN;2NUN;2SAMEKH;2AYg;2PE;2SADHE;2QOPH;2RESH;2FgAL SHg;2SHg;2TAW
108A7;NABATAEAN NUMBi ONE;2TWO;2THREE;2FOUR;1CRUCIj NUMBi FOUR;1NUMBi FIVE;2TEN;2TWENTY
108AF;NABATAEAN NUMBi ONE HUNDRm
108E0;HATRAN a ALEPH;2BETH;2GIMEL;2DALETH-RESH;2HE;2WAW;2ZAYN;2HETH;2TETH;2YODH;2KAPH;2LAMmH;2MEM
108ED;HATRAN a NUN;2SAMEKH;2AYN;2PE;2SADHE;2QOPH
108F4;HATRAN a SHg;2TAW
108FB;HATRAN NUMBi ONE;2FIVE;2TEN;2TWENTY;2ONE HUNDRm;PHOENICIAN a ALF;2BET;2GAML;2DELT;2HE;2WAU
10906;PHOENICIAN a ZAI;2HET;2TET;2YOD;2KAF;2LAMD;2MEM;2NUN;2SEMK;2Ag;2PE;2SADE;2QOF;2ROSH;2SHg
10915;PHOENICIAN a TAU;1NUMBi ONE;2TEN;2TWENTY;2ONE HUNDRm;2TWO;2THREE
1091F;PHOENICIAN WORD SEPARATOR;LYDIAN a A;2B;2G;2D;2E;2V;2I;2Y;2K;2L;2M;2N;2O;2R;2SS;2T;2U;2F;2Q
10933;LYDIAN a S;2TT;2AN;2EN;2LY;2NN;2C
1093F;LYDIAN TRIANGULAR MARK
10980;MiOITIC HIiOGLYPHIC a A;3E;3I;3O;3YA;3WA;3BA;3BA-2;3PA;3MA;3NA;3NA-2;3NE;3NE-2;3RA;3RA-2;3LA
10991;MiOITIC HIiOGLYPHIC a KHA;3HHA;3SA;3SA-2;3SE;3KA;3QA;3TA;3TA-2;3TE;3TE-2;3TO;3DA;2u VIDJ
1099F;MiOITIC HIiOGLYPHIC u VIDJ-2;1CURSIVE a A;3E;3I;3O;3YA;3WA;3BA;3PA;3MA;3NA;3NE;3RA;3LA;3KHA
109AE;MiOITIC CURSIVE a HHA;3SA;3ARCHAIC SA;3SE;3KA;3QA;3TA;3TE;3TO;3DA
109BC;MiOITIC CURSIVE FRACv ELEVEN TWELFTHS;3ONE HALF;2LOGOGRAM RMT;3IMN;2NUMBi ONE;3TWO;3THREE
109C3;MiOITIC CURSIVE NUMBi FOUR;3FIVE;3SIX;3SEVEN;3Ef;3NgE;3TEN;3TWENTY;3THIRTY;3FORTY;3FIFTY
109CE;MiOITIC CURSIVE NUMBi SIXTY;3SEVENTY
109D2;MiOITIC CURSIVE NUMBi ONE HUNDRm;3TWO HUNDRm;3THREE HUNDRm;3FOUR HUNDRm;3FIVE HUNDRm
109D7;MiOITIC CURSIVE NUMBi SIX HUNDRm;3SEVEN HUNDRm;3Ef HUNDRm;3NgE HUNDRm;3ONE THOUSl
109DC;MiOITIC CURSIVE NUMBi TWO THOUSl;3THREE THOUSl;3FOUR THOUSl;3FIVE THOUSl;3SIX THOUSl
109E1;MiOITIC CURSIVE NUMBi SEVEN THOUSl;3Ef THOUSl;3NgE THOUSl;3TEN THOUSl;3TWENTY THOUSl
109E6;MiOITIC CURSIVE NUMBi THIRTY THOUSl;3FORTY THOUSl;3FIFTY THOUSl;3SIXTY THOUSl
109EA;MiOITIC CURSIVE NUMBi SEVENTY THOUSl;3EfY THOUSl;3NgETY THOUSl;3ONE HUNDRm THOUSl
109EE;MiOITIC CURSIVE NUMBi TWO HUNDRm THOUSl;3THREE HUNDRm THOUSl;3FOUR HUNDRm THOUSl
109F1;MiOITIC CURSIVE NUMBi FIVE HUNDRm THOUSl;3SIX HUNDRm THOUSl;3SEVEN HUNDRm THOUSl
109F4;MiOITIC CURSIVE NUMBi Ef HUNDRm THOUSl;3NgE HUNDRm THOUSl;2FRACv ONE TWELFTH;3TWO TWELFTHS
109F8;MiOITIC CURSIVE FRACv THREE TWELFTHS;3FOUR TWELFTHS;3FIVE TWELFTHS;3SIX TWELFTHS
109FC;MiOITIC CURSIVE FRACv SEVEN TWELFTHS;3Ef TWELFTHS;3NgE TWELFTHS;3TEN TWELFTHS;KHAROSHTHI a A
10A01;KHAROSHTHI VOWEL n I;3U;3VOCALIC R
10A05;KHAROSHTHI VOWEL n E;3O
10A0C;KHAROSHTHI VOWEL LENGTH MARK;1n r RgG x;2ANUSVARA;2VISARGA;1a KA;2KHA;2GA;2GHA
10A15;KHAROSHTHI a CA;2CHA;2JA
10A19;KHAROSHTHI a NYA;2TTA;2TTHA;2DDA;2DDHA;2NNA;2TA;2THA;2DA;2DHA;2NA;2PA;2PHA;2BA;2BHA;2MA;2YA
10A2A;KHAROSHTHI a RA;2LA;2VA;2SHA;2SSA;2SA;2ZA;2HA;2KKA;2TTTHA;2TTTA;2VHA
10A38;KHAROSHTHI n BAR q;2CAUDA;2s x
10A3F;KHAROSHTHI VIRAMA;1DIGIT ONE;2TWO;2THREE;2FOUR;1NUMBi TEN;2TWENTY;2ONE HUNDRm;3THOUSl
10A48;KHAROSHTHI FRACv ONE HALF
10A50;KHAROSHTHI PUNCTUAv s;2e CIRCLE;2CIRCLE;2CRESCENT BAR;2MANGALAM;2LOTUS;2DlA;2r DlA;2LgES
10A60;OLD SOUTH ARABIAN a HE;4LAMmH;4HETH;4MEM;4QOPH;4WAW;4SHg;4RESH;4BETH;4TAW;4SAT;4KAPH;4NUN
10A6D;OLD SOUTH ARABIAN a KHETH;4SADHE;4SAMEKH;4FE;4ALEF;4AYN;4DHADHE;4GIMEL;4DALETH;4GHAYN;4TETH
10A78;OLD SOUTH ARABIAN a ZAYN;4DHALETH;4YODH;4THAW;4THETH;3NUMBi ONE;4FIFTY;3NUMiIC gDICATOR
10A80;OLD NORTH ARABIAN a HEH;4LAM;4HAH;4MEEM;4QAF;4WAW;4ES-2;4REH;4BEH;4TEH;4ES-1;4KAF;4NOON
10A8D;OLD NORTH ARABIAN a KHAH;4SAD;4ES-3;4FEH;4ALEF;4Ag;4DAD;4GEEM;4DAL;4GHAg;4TAH;4ZAg;4THAL
10A9A;OLD NORTH ARABIAN a YEH;4THEH;4ZAH;3NUMBi ONE;4TEN;4TWENTY
10AC0;MANICHAEAN a ALEPH;2BETH;2BHETH;2GIMEL;2GHIMEL;2DALETH;2HE;2WAW;1n UD;1a ZAYg;2ZHAYg;2JAYg
10ACC;MANICHAEAN a JHAYg;2HETH;2TETH;2YODH;2KAPH;2XAPH;2KHAPH;2LAMmH;2DHAMmH;2THAMmH;2MEM;2NUN
10AD8;MANICHAEAN a SAMEKH;2AYg;2AAYg;2PE;2FE;2SADHE;2QOPH;2XOPH;2QHOPH;2RESH;2SHg;2SSHg;2TAW
10AE5;MANICHAEAN ABBREVIAv MARK q;3x
10AEB;MANICHAEAN NUMBi ONE;2FIVE;2TEN;2TWENTY;2ONE HUNDRm;1PUNCTUAv STAR;2FLEURON;2r s cg s
10AF3;MANICHAEAN PUNCTUAv s cg s;2s;2TWO sS;2LgE FILLi
10B00;AVESTAN a A;2AA;2AO;2AAO;2AN;2AAN;2AE;2AEE;2E;2EE;2O;2OO;2I;2II;2U;2UU;2KE;2XE;2XYE;2XVE;2GE
10B15;AVESTAN a GGE;2GHE;2CE;2JE;2TE;2THE;2DE;2DHE;2TTE;2PE;2FE;2BE;2BHE;2NGE;2NGYE;2NGVE;2NE;2NYE
10B27;AVESTAN a NNE;2ME;2HME;2YYE;2YE;2VE;2RE;2LE;2SE;2ZE;2SHE;2ZHE;2SHYE;2SSHE;2HE
10B39;AVESTAN ABBREVIAv MARK;TgY TWO sS OVi ONE s PUNCTUAv;e TWO sS OVi ONE s PUNCTUAv
10B3C;LARGE TWO sS OVi ONE s PUNCTUAv;1ONE s OVi TWO sS PUNCTUAv;1TWO RgGS OVi ONE RgG PUNCTUAv
10B3F;LARGE ONE RgG OVi TWO RgGS PUNCTUAv;gSCRIPvAL PARTHIAN a ALEPH;3BETH;3GIMEL;3DALETH;3HE;3WAW
10B46;gSCRIPvAL PARTHIAN a ZAYg;3HETH;3TETH;3YODH;3KAPH;3LAMmH;3MEM;3NUN;3SAMEKH;3AYg;3PE;3SADHE
10B52;gSCRIPvAL PARTHIAN a QOPH;3RESH;3SHg;3TAW
10B58;gSCRIPvAL PARTHIAN NUMBi ONE;3TWO;3THREE;3FOUR;3TEN;3TWENTY;3ONE HUNDRm;4THOUSl
10B60;gSCRIPvAL PAHLAVI a ALEPH;3BETH;3GIMEL;3DALETH;3HE;3WAW-AYg-RESH;3ZAYg;3HETH;3TETH;3YODH
10B6A;gSCRIPvAL PAHLAVI a KAPH;3LAMmH;3MEM-QOPH;3NUN;3SAMEKH;3PE;3SADHE;3SHg;3TAW
10B78;gSCRIPvAL PAHLAVI NUMBi ONE;3TWO;3THREE;3FOUR;3TEN;3TWENTY;3ONE HUNDRm;4THOUSl
10B80;PSALTi PAHLAVI a ALEPH;3BETH;3GIMEL;3DALETH;3HE;3WAW-AYg-RESH;3ZAYg;3HETH;3YODH;3KAPH;3LAMmH
10B8B;PSALTi PAHLAVI a MEM-QOPH;3NUN;3SAMEKH;3PE;3SADHE;3SHg;3TAW
10B99;PSALTi PAHLAVI SECv MARK;2TURNm SECv MARK;2FOUR sS c CROSS;5s
10BA9;PSALTi PAHLAVI NUMBi ONE;3TWO;3THREE;3FOUR;3TEN;3TWENTY;3ONE HUNDRm
10C00;OLD TURKIC a ORKHON A;3YENISEI A;4AE;3ORKHON I;3YENISEI I;4E;3ORKHON O;4OE;3YENISEI OE
10C09;OLD TURKIC a ORKHON AB;3YENISEI AB;3ORKHON AEB;3YENISEI AEB;3ORKHON AG;3YENISEI AG
10C0F;OLD TURKIC a ORKHON AEG;3YENISEI AEG;3ORKHON AD;3YENISEI AD;3ORKHON Am;4EZ;3YENISEI EZ
10C16;OLD TURKIC a ORKHON AY;3YENISEI AY;3ORKHON AEY;3YENISEI AEY;3ORKHON AEK;3YENISEI AEK
10C1C;OLD TURKIC a ORKHON OEK;3YENISEI OEK;3ORKHON AL;3YENISEI AL;3ORKHON AEL;4ELT;4EM;4AN;4AEN
10C25;OLD TURKIC a YENISEI AEN;3ORKHON ENT;3YENISEI ENT;3ORKHON ENC;3YENISEI ENC;3ORKHON ENY
10C2B;OLD TURKIC a YENISEI ENY;4ANG;3ORKHON ENG;3YENISEI AENG;3ORKHON EP;4OP;4IC;4EC;3YENISEI EC
10C34;OLD TURKIC a ORKHON AQ;3YENISEI AQ;3ORKHON IQ;3YENISEI IQ;3ORKHON OQ;3YENISEI OQ;3ORKHON AR
10C3B;OLD TURKIC a YENISEI AR;3ORKHON Ai;4AS;4AES;4ASH;3YENISEI ASH;3ORKHON ESH;3YENISEI ESH
10C43;OLD TURKIC a ORKHON AT;3YENISEI AT;3ORKHON AET;3YENISEI AET;3ORKHON OT;4BASH
10C80;OLD HUNGARIAN d a A;4AA;4EB;4AMB;4EC;4ENC;4ECS;4m;4l;4E;4CLOSE E;4EE;4EF;4EG;4EGY;4EH;4I;4II
10C92;OLD HUNGARIAN d a EJ;4EK;4AK;4UNK;4EL;4ELY;4EM;4EN;4ENY;4O;4OO;4NIKOLSBURG OE;4RUDIMENTA OE
10C9F;OLD HUNGARIAN d a OEE;4EP;4EMP;4i;4SHORT i;4ES;4ESZ;4ET;4ENT;4ETY;4ECH;4U;4UU;4NIKOLSBURG UE
10CAD;OLD HUNGARIAN d a RUDIMENTA UE;4EV;4EZ;4EZS;4ENT-SHAPm n;4US
10CC0;OLD HUNGARIAN e a A;4AA;4EB;4AMB;4EC;4ENC;4ECS;4m;4l;4E;4CLOSE E;4EE;4EF;4EG;4EGY;4EH;4I;4II
10CD2;OLD HUNGARIAN e a EJ;4EK;4AK;4UNK;4EL;4ELY;4EM;4EN;4ENY;4O;4OO;4NIKOLSBURG OE;4RUDIMENTA OE
10CDF;OLD HUNGARIAN e a OEE;4EP;4EMP;4i;4SHORT i;4ES;4ESZ;4ET;4ENT;4ETY;4ECH;4U;4UU;4NIKOLSBURG UE
10CED;OLD HUNGARIAN e a RUDIMENTA UE;4EV;4EZ;4EZS;4ENT-SHAPm n;4US
10CFA;OLD HUNGARIAN NUMBi ONE;3FIVE;3TEN;3FIFTY;3ONE HUNDRm;4THOUSl;HANIFI ROHgGYA a A;3BA;3PA;3TA
10D04;HANIFI ROHgGYA a TTA;3JA;3CA;3HA;3KHA;3FA;3DA;3DDA;3RA;3RRA;3ZA;3SA;3SHA;3KA;3GA;3LA;3MA;3NA
10D16;HANIFI ROHgGYA a WA;3KgNA WA;3YA;3KgNA YA;3NGA;3NYA;3VA;2VOWEL A;3I;3U;3E;3O;2MARK SAKg
10D23;HANIFI ROHgGYA MARK NA KHONNA;2n HARBAHAY;3TAHALA;3TANA;3TASSI
10D30;HANIFI ROHgGYA DIGIT ZiO;3ONE;3TWO;3THREE;3FOUR;3FIVE;3SIX;3SEVEN;3Ef;3NgE
10E60;RUMI DIGIT ONE;2TWO;2THREE;2FOUR;2FIVE;2SIX;2SEVEN;2Ef;2NgE;1NUMBi TEN;2TWENTY;2THIRTY
10E6C;RUMI NUMBi FORTY;2FIFTY;2SIXTY;2SEVENTY;2EfY;2NgETY;2ONE HUNDRm;2TWO HUNDRm;2THREE HUNDRm
10E75;RUMI NUMBi FOUR HUNDRm;2FIVE HUNDRm;2SIX HUNDRm;2SEVEN HUNDRm;2Ef HUNDRm;2NgE HUNDRm
10E7B;RUMI FRACv ONE HALF;3QUARTi;3THIRD;2TWO THIRDS
10E80;YEZIDI a ELIF;2BE;2PE;2PHE;2THE;2SE;2CIM;2CHIM;2CHHIM;2HHA;2XA;2DAL;2ZAL;2RA;2RHA;2ZA;2JA
10E91;YEZIDI a Sg;2SHg;2SAD;2DAD;2TA;2ZE;2EYN;2XHEYN;2FA;2VA;3ALTiNATE j;2QAF;2KAF;2KHAF;2GAF;2LAM
10EA1;YEZIDI a MIM;2NUN;2UM;2WAW;2OW;2EW;2HAY;2YOT;2ET
10EAB;YEZIDI COMBggG HAMZA MARK;2MADDA MARK;1HYPHENAv MARK
10EB0;YEZIDI a LAM c s q;2YOT c CIRCUMFLEX q
10F00;OLD SOGDIAN a ALEPH;3FgAL ALEPH;3BETH;3FgAL BETH;3GIMEL;3HE;3FgAL HE;3WAW;3ZAYg;3HETH;3YODH
10F0B;OLD SOGDIAN a KAPH;3LAMmH;3MEM;3NUN;3FgAL NUN;5c ViTICAL TAIL;3SAMEKH;3AYg;3ALTiNATE AYg;3PE
10F15;OLD SOGDIAN a SADHE;3FgAL SADHE;5c ViTICAL TAIL;3RESH-AYg-DALETH;3SHg;3TAW;3FgAL TAW
10F1C;OLD SOGDIAN a FgAL TAW c ViTICAL TAIL;2NUMBi ONE;3TWO;3THREE;3FOUR;3FIVE;3TEN;3TWENTY
10F24;OLD SOGDIAN NUMBi THIRTY;3ONE HUNDRm;2FRACv ONE HALF;2LIGATURE AYg-DALETH
10F30;SOGDIAN a ALEPH;2BETH;2GIMEL;2HE;2WAW;2ZAYg;2HETH;2YODH;2KAPH;2LAMmH;2MEM;2NUN;2SAMEKH;2AYg
10F3E;SOGDIAN a PE;2SADHE;2RESH-AYg;2SHg;2TAW;2FETH;2LESH;1gDEPENDENT SHg;1COMBggG s x;2TWO sS x
10F48;SOGDIAN COMBggG s q;2TWO sS q;2CURVE q;3x;2HOOK q;3x;2LONG HOOK x;2RESH x;2y x;1NUMBi ONE
10F52;SOGDIAN NUMBi TEN;2TWENTY;2ONE HUNDRm;1PUNCTUAv TWO ViTICAL BARS;5c sS;2CIRCLE c s
10F58;SOGDIAN PUNCTUAv TWO CIRCLES c sS;2HALF CIRCLE c s
10F70;OLD UYGHUR a ALEPH;3BETH;3GIMEL-HETH;3WAW;3ZAYg;3FgAL HETH;3YODH;3KAPH;3LAMmH;3MEM;3NUN
10F7B;OLD UYGHUR a SAMEKH;3PE;3SADHE;3RESH;3SHg;3TAW;3LESH;2COMBggG s q;4x;3TWO sS q;5x
10F86;OLD UYGHUR PUNCTUAv BAR;3TWO BARS;4sS;3FOUR sS
10FB0;CHORASMIAN a ALEPH;2e ALEPH;2BETH;2GIMEL;2DALETH;2HE;2WAW;2CURLm WAW;2ZAYg;2HETH;2YODH;2KAPH
10FBC;CHORASMIAN a LAMmH;2MEM;2NUN;2SAMEKH;2AYg;2PE;2RESH;2SHg;2TAW;1NUMBi ONE;2TWO;2THREE;2FOUR
10FC9;CHORASMIAN NUMBi TEN;2TWENTY;2ONE HUNDRm
10FE0;ELYMAIC a ALEPH;2BETH;2GIMEL;2DALETH;2HE;2WAW;2ZAYg;2HETH;2TETH;2YODH;2KAPH;2LAMmH;2MEM;2NUN
10FEE;ELYMAIC a SAMEKH;2AYg;2PE;2SADHE;2QOPH;2RESH;2SHg;2TAW;1LIGATURE ZAYg-YODH
11000;BRAHMI n ClRABgDU;2ANUSVARA;2VISARGA;2JIHVAMULIYA;2UPADHMANIYA;1a A;2AA;2I;2II;2U;2UU
1100B;BRAHMI a VOCALIC R;3RR;3L;3LL;2E;2AI;2O;2AU;2KA;2KHA;2GA;2GHA;2NGA;2CA;2CHA;2JA;2JHA;2NYA
1101D;BRAHMI a TTA;2TTHA;2DDA;2DDHA;2NNA;2TA;2THA;2DA;2DHA;2NA;2PA;2PHA;2BA;2BHA;2MA;2YA;2RA;2LA
1102F;BRAHMI a VA;2SHA;2SSA;2SA;2HA;2LLA;2OLD TAMIL LLLA;4RRA;4NNNA;1VOWEL n AA;3BHATTIPROLU AA;3I
1103B;BRAHMI VOWEL n II;3U;3UU;3VOCALIC R;4RR;4L;4LL;3E;3AI;3O;3AU;1VIRAMA;1DlA;1r DlA;1PUNCTUAv s
1104A;BRAHMI PUNCTUAv r s;2LgE;2CRESCENT BAR;2LOTUS
11052;BRAHMI NUMBi ONE;2TWO;2THREE;2FOUR;2FIVE;2SIX;2SEVEN;2Ef;2NgE;2TEN;2TWENTY;2THIRTY;2FORTY
1105F;BRAHMI NUMBi FIFTY;2SIXTY;2SEVENTY;2EfY;2NgETY;2ONE HUNDRm;3THOUSl;1DIGIT ZiO;2ONE;2TWO
11069;BRAHMI DIGIT THREE;2FOUR;2FIVE;2SIX;2SEVEN;2Ef;2NgE;1n OLD TAMIL VIRAMA;1a OLD TAMIL SHORT E
11072;BRAHMI a OLD TAMIL SHORT O;1VOWEL n OLD TAMIL SHORT E;6O;1a OLD TAMIL LLA
1107F;BRAHMI NUMBi JOgi;KAITHI n ClRABgDU;2ANUSVARA;2VISARGA;1a A;2AA;2I;2II;2U;2UU;2E;2AI;2O;2AU
1108D;KAITHI a KA;2KHA;2GA;2GHA;2NGA;2CA;2CHA;2JA;2JHA;2NYA;2TTA;2TTHA;2DDA;2DDDHA;2DDHA;2RHA;2NNA
1109E;KAITHI a TA;2THA;2DA;2DHA;2NA;2PA;2PHA;2BA;2BHA;2MA;2YA;2RA;2LA;2VA;2SHA;2SSA;2SA;2HA
110B0;KAITHI VOWEL n AA;3I;3II;3U;3UU;3E;3AI;3O;3AU;1n VIRAMA;2NUKTA;1ABBREVIAv n;1ENUMiAv n
110BD;KAITHI NUMBi n;1SECv MARK;1r SECv MARK;1DlA;1r DlA;1VOWEL n VOCALIC R
110CD;KAITHI NUMBi n q
110D0;SORA SOMPENG a SAH;3TAH;3BAH;3CAH;3DAH;3GAH;3MAH;3NGAH;3LAH;3NAH;3VAH;3PAH;3YAH;3RAH;3HAH
110DF;SORA SOMPENG a KAH;3JAH;3NYAH;3AH;3EEH;3IH;3UH;3OH;3EH;3MAE
110F0;SORA SOMPENG DIGIT ZiO;3ONE;3TWO;3THREE;3FOUR;3FIVE;3SIX;3SEVEN;3Ef;3NgE
11100;CHAKMA n ClRABgDU;2ANUSVARA;2VISARGA;1a AA;2I;2U;2E;2KAA;2KHAA;2GAA;2GHAA;2NGAA;2CAA;2CHAA
1110E;CHAKMA a JAA;2JHAA;2NYAA;2TTAA;2TTHAA;2DDAA;2DDHAA;2NNAA;2TAA;2THAA;2DAA;2DHAA;2NAA;2PAA
1111C;CHAKMA a PHAA;2BAA;2BHAA;2MAA;2YYAA;2YAA;2RAA;2LAA;2WAA;2SAA;2HAA;1VOWEL n A;3I;3II;3U;3UU
1112C;CHAKMA VOWEL n E;3AI;3O;3AU;3OI;1O MARK;1AU MARK;1VIRAMA;1MAAYYAA
11136;CHAKMA DIGIT ZiO;2ONE;2TWO;2THREE;2FOUR;2FIVE;2SIX;2SEVEN;2Ef;2NgE;1SECv MARK;1DlA;1r DlA
11143;CHAKMA QUESv MARK;1a LHAA;1VOWEL n AA;3EI;1a VAA
11150;MAHAJANI a A;2I;2U;2E;2O;2KA;2KHA;2GA;2GHA;2CA;2CHA;2JA;2JHA;2NYA;2TTA;2TTHA;2DDA;2DDHA;2NNA
11163;MAHAJANI a TA;2THA;2DA;2DHA;2NA;2PA;2PHA;2BA;2BHA;2MA;2RA;2LA;2VA;2SA;2HA;2RRA;1n NUKTA
11174;MAHAJANI ABBREVIAv n;1SECv MARK;1LIGATURE SHRI
11180;SHARADA n ClRABgDU;2ANUSVARA;2VISARGA;1a A;2AA;2I;2II;2U;2UU;2VOCALIC R;3RR;3L;3LL;2E;2AI;2O
11190;SHARADA a AU;2KA;2KHA;2GA;2GHA;2NGA;2CA;2CHA;2JA;2JHA;2NYA;2TTA;2TTHA;2DDA;2DDHA;2NNA;2TA
111A1;SHARADA a THA;2DA;2DHA;2NA;2PA;2PHA;2BA;2BHA;2MA;2YA;2RA;2LA;2LLA;2VA;2SHA;2SSA;2SA;2HA
111B3;SHARADA VOWEL n AA;3I;3II;3U;3UU;3VOCALIC R;4RR;4L;4LL;3E;3AI;3O;3AU;1n VIRAMA;2AVAGRAHA
111C2;SHARADA n JIHVAMULIYA;2UPADHMANIYA;1OM;1DlA;1r DlA;1ABBREVIAv n;1SEPARATOR;1SlHI MARK
111CA;SHARADA n NUKTA;1VOWEL MODIFIi MARK;1EXTRA SHORT VOWEL MARK;1SUTRA MARK
111CE;SHARADA VOWEL n PRISHTHAMATRA E;1n gViTm ClRABgDU;1DIGIT ZiO;2ONE;2TWO;2THREE;2FOUR;2FIVE
111D6;SHARADA DIGIT SIX;2SEVEN;2Ef;2NgE;1EKAM;1n SIDDHAM;1HEADy;1CONTgUAv n;1SECv MARK-1;2MARK-2
111E1;SgHALA ARCHAIC DIGIT ONE;3TWO;3THREE;3FOUR;3FIVE;3SIX;3SEVEN;3Ef;3NgE;2NUMBi TEN;3TWENTY
111EC;SgHALA ARCHAIC NUMBi THIRTY;3FORTY;3FIFTY;3SIXTY;3SEVENTY;3EfY;3NgETY;3ONE HUNDRm;4THOUSl
11200;KHOJKI a A;2AA;2I;2U;2E;2AI;2O;2AU;2KA;2KHA;2GA;2GGA;2GHA;2NGA;2CA;2CHA;2JA;2JJA
11213;KHOJKI a NYA;2TTA;2TTHA;2DDA;2DDHA;2NNA;2TA;2THA;2DA;2DDDA;2DHA;2NA;2PA;2PHA;2BA;2BBA;2BHA
11224;KHOJKI a MA;2YA;2RA;2LA;2VA;2SA;2HA;2LLA;1VOWEL n AA;3I;3II;3U;3E;3AI;3O;3AU;1n ANUSVARA
11235;KHOJKI n VIRAMA;2NUKTA;2SHADDA;1DlA;1r DlA;1WORD SEPARATOR;1SECv MARK;1r SECv MARK
1123D;KHOJKI ABBREVIAv n;1n SUKUN
11280;MULTANI a A;2I;2U;2E;2KA;2KHA;2GA
11288;MULTANI a GHA
1128A;MULTANI a CA;2CHA;2JA;2JJA
1128F;MULTANI a NYA;2TTA;2TTHA;2DDA;2DDDA;2DDHA;2NNA;2TA;2THA;2DA;2DHA;2NA;2PA;2PHA;2BA
1129F;MULTANI a BHA;2MA;2YA;2RA;2LA;2VA;2SA;2HA;2RRA;2RHA;1SECv MARK
112B0;KHUDAWADI a A;2AA;2I;2II;2U;2UU;2E;2AI;2O;2AU;2KA;2KHA;2GA;2GGA;2GHA;2NGA;2CA;2CHA;2JA;2JJA
112C4;KHUDAWADI a JHA;2NYA;2TTA;2TTHA;2DDA;2DDDA;2RRA;2DDHA;2NNA;2TA;2THA;2DA;2DHA;2NA;2PA;2PHA
112D4;KHUDAWADI a BA;2BBA;2BHA;2MA;2YA;2RA;2LA;2VA;2SHA;2SA;2HA;1n ANUSVARA;1VOWEL n AA;3I;3II;3U
112E4;KHUDAWADI VOWEL n UU;3E;3AI;3O;3AU;1n NUKTA;2VIRAMA
112F0;KHUDAWADI DIGIT ZiO;2ONE;2TWO;2THREE;2FOUR;2FIVE;2SIX;2SEVEN;2Ef;2NgE
11300;GRANTHA n COMBggG ANUSVARA q;2ClRABgDU;2ANUSVARA;2VISARGA
11305;GRANTHA a A;2AA;2I;2II;2U;2UU;2VOCALIC R;3L
1130F;GRANTHA a EE;2AI
11313;GRANTHA a OO;2AU;2KA;2KHA;2GA;2GHA;2NGA;2CA;2CHA;2JA;2JHA;2NYA;2TTA;2TTHA;2DDA;2DDHA;2NNA
11324;GRANTHA a TA;2THA;2DA;2DHA;2NA
1132A;GRANTHA a PA;2PHA;2BA;2BHA;2MA;2YA;2RA
11332;GRANTHA a LA;2LLA
11335;GRANTHA a VA;2SHA;2SSA;2SA;2HA
1133B;COMBggG BgDU x;GRANTHA n NUKTA;2AVAGRAHA;1VOWEL n AA;3I;3II;3U;3UU;3VOCALIC R;4RR
11347;GRANTHA VOWEL n EE;3AI
1134B;GRANTHA VOWEL n OO;3AU;1n VIRAMA
11350;GRANTHA OM
11357;GRANTHA AU LENGTH MARK
1135D;GRANTHA n PLUTA;1a VmIC ANUSVARA;3r ANUSVARA;2VOCALIC RR;3LL;1VOWEL n VOCALIC L;4LL
11366;COMBggG GRANTHA DIGIT ZiO;3ONE;3TWO;3THREE;3FOUR;3FIVE;3SIX
11370;COMBggG GRANTHA a A;3KA;3NA;3VI;3PA
11400;NEWA a A;2AA;2I;2II;2U;2UU;2VOCALIC R;3RR;3L;3LL;2E;2AI;2O;2AU;2KA;2KHA;2GA;2GHA;2NGA;2NGHA
11414;NEWA a CA;2CHA;2JA;2JHA;2NYA;2NYHA;2TTA;2TTHA;2DDA;2DDHA;2NNA;2TA;2THA;2DA;2DHA;2NA;2NHA;2PA
11426;NEWA a PHA;2BA;2BHA;2MA;2MHA;2YA;2RA;2RHA;2LA;2LHA;2WA;2SHA;2SSA;2SA;2HA;1VOWEL n AA;3I;3II
11438;NEWA VOWEL n U;3UU;3VOCALIC R;4RR;4L;4LL;3E;3AI;3O;3AU;1n VIRAMA;2ClRABgDU;2ANUSVARA
11445;NEWA n VISARGA;2NUKTA;2AVAGRAHA;2FgAL ANUSVARA;1OM;1SIDDHI;1DlA;1r DlA;1COMMA;1GAP FILLi
1144F;NEWA ABBREVIAv n;1DIGIT ZiO;2ONE;2TWO;2THREE;2FOUR;2FIVE;2SIX;2SEVEN;2Ef;2NgE;1r COMMA
1145B;NEWA PLACEHOLDi MARK
1145D;NEWA gSiv n;1SlHI MARK;1a VmIC ANUSVARA;1n JIHVAMULIYA;2UPADHMANIYA
11480;TIRHUTA ANJI;1a A;2AA;2I;2II;2U;2UU;2VOCALIC R;3RR;3L;3LL;2E;2AI;2O;2AU;2KA;2KHA;2GA;2GHA
11493;TIRHUTA a NGA;2CA;2CHA;2JA;2JHA;2NYA;2TTA;2TTHA;2DDA;2DDHA;2NNA;2TA;2THA;2DA;2DHA;2NA;2PA
114A4;TIRHUTA a PHA;2BA;2BHA;2MA;2YA;2RA;2LA;2VA;2SHA;2SSA;2SA;2HA;1VOWEL n AA;3I;3II;3U;3UU
114B5;TIRHUTA VOWEL n VOCALIC R;4RR;4L;4LL;3E;3SHORT E;3AI;3O;3SHORT O;3AU;1n ClRABgDU;2ANUSVARA
114C1;TIRHUTA n VISARGA;2VIRAMA;2NUKTA;2AVAGRAHA;1GVANG;1ABBREVIAv n;1OM
114D0;TIRHUTA DIGIT ZiO;2ONE;2TWO;2THREE;2FOUR;2FIVE;2SIX;2SEVEN;2Ef;2NgE
11580;SIDDHAM a A;2AA;2I;2II;2U;2UU;2VOCALIC R;3RR;3L;3LL;2E;2AI;2O;2AU;2KA;2KHA;2GA;2GHA;2NGA;2CA
11594;SIDDHAM a CHA;2JA;2JHA;2NYA;2TTA;2TTHA;2DDA;2DDHA;2NNA;2TA;2THA;2DA;2DHA;2NA;2PA;2PHA;2BA
115A5;SIDDHAM a BHA;2MA;2YA;2RA;2LA;2VA;2SHA;2SSA;2SA;2HA;1VOWEL n AA;3I;3II;3U;3UU;3VOCALIC R;4RR
115B8;SIDDHAM VOWEL n E;3AI;3O;3AU;1n ClRABgDU;2ANUSVARA;2VISARGA;2VIRAMA;2NUKTA;2SIDDHAM;1DlA
115C3;SIDDHAM r DlA;1SEPARATOR s;2BAR;1REPETIv MARK-1;2MARK-2;2MARK-3;1END OF TEXT MARK
115CA;SIDDHAM SECv MARK c TRIDENT l U-SHAPm ORNAMENTS;6sTm CRESCENTS;4RAYS l sTm CRESCENTS
115CD;SIDDHAM SECv MARK c RAYS l sTm r CRESCENTS;7TRIPLE CRESCENTS;3r RgG;5c RAYS;3c r CRESCENTS
115D2;SIDDHAM SECv MARK c TRIPLE CRESCENTS;4QUADRUPLE CRESCENTS;4SEPTUPLE CRESCENTS
115D5;SIDDHAM SECv MARK c CIRCLES l RAYS;6TWO ENCLOSURES;6FOUR ENCLOSURES
115D8;SIDDHAM a THREE-CIRCLE ALTiNATE I;2TWO-CIRCLE ALTiNATE I;4II;2ALTiNATE U;1VOWEL n ALTiNATE U
115DD;SIDDHAM VOWEL n ALTiNATE UU
11600;MODI a A;2AA;2I;2II;2U;2UU;2VOCALIC R;3RR;3L;3LL;2E;2AI;2O;2AU;2KA;2KHA;2GA;2GHA;2NGA;2CA
11614;MODI a CHA;2JA;2JHA;2NYA;2TTA;2TTHA;2DDA;2DDHA;2NNA;2TA;2THA;2DA;2DHA;2NA;2PA;2PHA;2BA;2BHA
11626;MODI a MA;2YA;2RA;2LA;2VA;2SHA;2SSA;2SA;2HA;2LLA;1VOWEL n AA;3I;3II;3U;3UU;3VOCALIC R;4RR;4L
11638;MODI VOWEL n VOCALIC LL;3E;3AI;3O;3AU;1n ANUSVARA;2VISARGA;2VIRAMA;2ARDHAClRA;1DlA;1r DlA
11643;MODI ABBREVIAv n;1n HUVA
11650;MODI DIGIT ZiO;2ONE;2TWO;2THREE;2FOUR;2FIVE;2SIX;2SEVEN;2Ef;2NgE
11660;MONGOLIAN BIRGA c ORNAMENT;1ROTATm BIRGA;1r BIRGA c ORNAMENT;1TRIPLE BIRGA c ORNAMENT
11664;MONGOLIAN BIRGA c r ORNAMENT;1ROTATm BIRGA c ORNAMENT;4r ORNAMENT;1gViTm BIRGA;3c r ORNAMENT
11669;MONGOLIAN SWIRL BIRGA;3c ORNAMENT;4r ORNAMENT;1TURNm SWIRL BIRGA c r ORNAMENT
11680;TAKRI a A;2AA;2I;2II;2U;2UU;2E;2AI;2O;2AU;2KA;2KHA;2GA;2GHA;2NGA;2CA;2CHA;2JA;2JHA;2NYA;2TTA
11695;TAKRI a TTHA;2DDA;2DDHA;2NNA;2TA;2THA;2DA;2DHA;2NA;2PA;2PHA;2BA;2BHA;2MA;2YA;2RA;2LA;2VA
116A7;TAKRI a SHA;2SA;2HA;2RRA;1n ANUSVARA;2VISARGA;1VOWEL n AA;3I;3II;3U;3UU;3E;3AI;3O;3AU
116B6;TAKRI n VIRAMA;2NUKTA;1a ARCHAIC KHA;1ABBREVIAv n
116C0;TAKRI DIGIT ZiO;2ONE;2TWO;2THREE;2FOUR;2FIVE;2SIX;2SEVEN;2Ef;2NgE
11700;AHOM a KA;2KHA;2NGA;2NA;2TA;2ALTiNATE TA;2PA;2PHA;2BA;2MA;2JA;2CHA;2THA;2RA;2LA;2SA;2NYA;2HA
11712;AHOM a A;2DA;2DHA;2GA;2ALTiNATE GA;2GHA;2BHA;2JHA;2ALTiNATE BA
1171D;AHOM CONSONANT n MmIAL LA;4RA;4LIGATgG RA;1VOWEL n A;3AA;3I;3II;3U;3UU;3E;3AW;3O;3AI;3AM
1172B;AHOM n KILLi
11730;AHOM DIGIT ZiO;2ONE;2TWO;2THREE;2FOUR;2FIVE;2SIX;2SEVEN;2Ef;2NgE;1NUMBi TEN;2TWENTY
1173C;AHOM n e SECv;2SECv;2RULAI;1u VI;1a CA;2TTA;2TTHA;2DDA;2DDHA;2NNA;2LLA
11800;DOGRA a A;2AA;2I;2II;2U;2UU;2E;2AI;2O;2AU;2KA;2KHA;2GA;2GHA;2NGA;2CA;2CHA;2JA;2JHA;2NYA;2TTA
11815;DOGRA a TTHA;2DDA;2DDHA;2NNA;2TA;2THA;2DA;2DHA;2NA;2PA;2PHA;2BA;2BHA;2MA;2YA;2RA;2LA;2VA
11827;DOGRA a SHA;2SSA;2SA;2HA;2RRA;1VOWEL n AA;3I;3II;3U;3UU;3VOCALIC R;4RR;3E;3AI;3O;3AU
11837;DOGRA n ANUSVARA;2VISARGA;2VIRAMA;2NUKTA;1ABBREVIAv n
118A0;WARANG CITI d a NGAA;4A;4WI;4YU;4YA;4YO;4II;4UU;4E;4O;4ANG;4GA;4KO;4ENY;4YUJ;4UC;4ENN;4ODD
118B2;WARANG CITI d a TTE;4NUNG;4DA;4AT;4AM;4BU;4PU;4HIYO;4HOLO;4HORR;4HAR;4SSUU;4SII;4VIYO
118C0;WARANG CITI e a NGAA;4A;4WI;4YU;4YA;4YO;4II;4UU;4E;4O;4ANG;4GA;4KO;4ENY;4YUJ;4UC;4ENN;4ODD
118D2;WARANG CITI e a TTE;4NUNG;4DA;4AT;4AM;4BU;4PU;4HIYO;4HOLO;4HORR;4HAR;4SSUU;4SII;4VIYO
118E0;WARANG CITI DIGIT ZiO;3ONE;3TWO;3THREE;3FOUR;3FIVE;3SIX;3SEVEN;3Ef;3NgE;2NUMBi TEN;3TWENTY
118EC;WARANG CITI NUMBi THIRTY;3FORTY;3FIFTY;3SIXTY;3SEVENTY;3EfY;3NgETY
118FF;WARANG CITI OM;DIVES AKURU a A;3AA;3I;3II;3U;3UU;3E
11909;DIVES AKURU a O
1190C;DIVES AKURU a KA;3KHA;3GA;3GHA;3NGA;3CA;3CHA;3JA
11915;DIVES AKURU a NYA;3TTA
11918;DIVES AKURU a DDA;3DDHA;3NNA;3TA;3THA;3DA;3DHA;3NA;3PA;3PHA;3BA;3BHA;3MA;3YA;3YYA;3RA;3LA
11929;DIVES AKURU a VA;3SHA;3SSA;3SA;3HA;3LLA;3ZA;2VOWEL n AA;4I;4II;4U;4UU;4E
11937;DIVES AKURU VOWEL n AI;4O
1193B;DIVES AKURU n ANUSVARA;3ClRABgDU;3HALANTA;2VIRAMA;2PREFIXm NASAL n;2MmIAL YA;2gITIAL RA
11942;DIVES AKURU MmIAL RA;2n NUKTA;2r DlA;2GAP FILLi;2END OF TEXT MARK
11950;DIVES AKURU DIGIT ZiO;3ONE;3TWO;3THREE;3FOUR;3FIVE;3SIX;3SEVEN;3Ef;3NgE
119A0;NlgAGARI a A;2AA;2I;2II;2U;2UU;2VOCALIC R;3RR
119AA;NlgAGARI a E;2AI;2O;2AU;2KA;2KHA;2GA;2GHA;2NGA;2CA;2CHA;2JA;2JHA;2NYA;2TTA;2TTHA;2DDA;2DDHA
119BC;NlgAGARI a NNA;2TA;2THA;2DA;2DHA;2NA;2PA;2PHA;2BA;2BHA;2MA;2YA;2RA;2LA;2VA;2SHA;2SSA;2SA;2HA
119CF;NlgAGARI a LLA;2RRA;1VOWEL n AA;3I;3II;3U;3UU;3VOCALIC R;4RR
119DA;NlgAGARI VOWEL n E;3AI;3O;3AU;1n ANUSVARA;2VISARGA;2VIRAMA;2AVAGRAHA;2SIDDHAM;1HEADy
119E4;NlgAGARI VOWEL n PRISHTHAMATRA E
11A00;ZANABAZAR SQUARE a A;2VOWEL n I;4UE;4U;4E;4OE;4O;4AI;4AU;4REViSm I;3LENGTH MARK;2a KA;3KHA
11A0D;ZANABAZAR SQUARE a GA;3GHA;3NGA;3CA;3CHA;3JA;3NYA;3TTA;3TTHA;3DDA;3DDHA;3NNA;3TA;3THA;3DA
11A1C;ZANABAZAR SQUARE a DHA;3NA;3PA;3PHA;3BA;3BHA;3MA;3TSA;3TSHA;3DZA;3DZHA;3ZHA;3ZA;3-A;3YA;3RA
11A2C;ZANABAZAR SQUARE a LA;3VA;3SHA;3SSA;3SA;3HA;3KSSA;2FgAL CONSONANT MARK;2n VIRAMA;3ClRABgDU
11A36;ZANABAZAR SQUARE n ClRABgDU c ORNAMENT;3ClRA c ORNAMENT;3ANUSVARA;3VISARGA
11A3A;ZANABAZAR SQUARE CLUSTi-gITIAL a RA;2CLUSTi-FgAL a YA;4RA;4LA;4VA;2gITIAL HEAD MARK
11A40;ZANABAZAR SQUARE CLOSgG HEAD MARK;2MARK TSHEG;3SHAD;3r SHAD;3LONG TSHEG
11A45;ZANABAZAR SQUARE gITIAL r-Lgm HEAD MARK;2CLOSgG r-Lgm HEAD MARK;2SUBJOgi
11A50;SOYOMBO a A;1VOWEL n I;3UE;3U;3E;3O;3OE;3AI;3AU;3VOCALIC R;4L;2LENGTH MARK;1a KA;2KHA;2GA
11A5F;SOYOMBO a GHA;2NGA;2CA;2CHA;2JA;2JHA;2NYA;2TTA;2TTHA;2DDA;2DDHA;2NNA;2TA;2THA;2DA;2DHA;2NA
11A70;SOYOMBO a PA;2PHA;2BA;2BHA;2MA;2TSA;2TSHA;2DZA;2ZHA;2ZA;2-A;2YA;2RA;2LA;2VA;2SHA;2SSA;2SA
11A82;SOYOMBO a HA;2KSSA;1n JIHVAMULIYA;2UPADHMANIYA;1CLUSTi-gITIAL a RA;3LA;3SHA;3SA
11A8A;SOYOMBO FgAL CONSONANT n G;4K;4NG;4D;4N;4B;4M;4R;4L;4SH;4S;4-A;1n ANUSVARA;2VISARGA
11A98;SOYOMBO GEMgAv MARK;1SUBJOgi;1MARK TSHEG;2SHAD;2r SHAD;2PLUTA
11A9E;SOYOMBO HEAD MARK c MOON l SUN l TRIPLE FLAME;8FLAME;6SUN;1TiMgAL MARK-1;2MARK-2
11AB0;CANADIAN SYLLABICS NATTILIK HI;3HII;3HO;3HOO;3HA;3HAA;3SHRI;3SHRII;3SHRO;3SHROO;3SHRA;3SHRAA
11ABC;CANADIAN SYLLABICS SPE;2SPI;2SPO;2SPA;PAU Cg HAU a PA;4KA;4LA;4MA;4DA;4ZA;4VA;4NGA;4HA;4GA
11ACA;PAU Cg HAU a KHA;4SA;4BA;4CA;4TA;4THA;4NA;4PHA;4RA;4FA;4CHA;4A;4E;4I;4O;4U;4UA;4IA;4FgAL P
11ADD;PAU Cg HAU a FgAL K;5T;5M;5N;5L;5W;5NG;5Y;3RISgG TONE LONG;4TONE;3SlHI GLOTTAL STOP
11AE8;PAU Cg HAU RISgG TONE LONG FgAL;5FgAL;3SlHI GLOTTAL STOP FgAL;4TONE LONG;4TONE;5LONG FgAL
11AEE;PAU Cg HAU SlHI TONE FgAL;3MID-LEVEL TONE;3GLOTTAL STOP VARIANT;3MID-LEVEL TONE LONG FgAL
11AF2;PAU Cg HAU MID-LEVEL TONE FgAL;3LOW-FALLgG TONE LONG;4TONE;3GLOTTAL STOP
11AF6;PAU Cg HAU LOW-FALLgG TONE LONG FgAL;5FgAL;3GLOTTAL STOP FgAL
11C00;BHAIKSUKI a A;2AA;2I;2II;2U;2UU;2VOCALIC R;3RR;3L
11C0A;BHAIKSUKI a E;2AI;2O;2AU;2KA;2KHA;2GA;2GHA;2NGA;2CA;2CHA;2JA;2JHA;2NYA;2TTA;2TTHA;2DDA;2DDHA
11C1C;BHAIKSUKI a NNA;2TA;2THA;2DA;2DHA;2NA;2PA;2PHA;2BA;2BHA;2MA;2YA;2RA;2LA;2VA;2SHA;2SSA;2SA
11C2E;BHAIKSUKI a HA;1VOWEL n AA;3I;3II;3U;3UU;3VOCALIC R;4RR;4L
11C38;BHAIKSUKI VOWEL n E;3AI;3O;3AU;1n ClRABgDU;2ANUSVARA;2VISARGA;2VIRAMA;2AVAGRAHA;1DlA;1r DlA
11C43;BHAIKSUKI WORD SEPARATOR;1GAP FILLi-1;2FILLi-2
11C50;BHAIKSUKI DIGIT ZiO;2ONE;2TWO;2THREE;2FOUR;2FIVE;2SIX;2SEVEN;2Ef;2NgE;1NUMBi ONE;2TWO;2THREE
11C5D;BHAIKSUKI NUMBi FOUR;2FIVE;2SIX;2SEVEN;2Ef;2NgE;2TEN;2TWENTY;2THIRTY;2FORTY;2FIFTY;2SIXTY
11C69;BHAIKSUKI NUMBi SEVENTY;2EfY;2NgETY;1HUNDRmS UNIT MARK
11C70;MARCHEN HEAD MARK;1MARK SHAD;1a KA;2KHA;2GA;2NGA;2CA;2CHA;2JA;2NYA;2TA;2THA;2DA;2NA;2PA;2PHA
11C80;MARCHEN a BA;2MA;2TSA;2TSHA;2DZA;2WA;2ZHA;2ZA;2-A;2YA;2RA;2LA;2SHA;2SA;2HA;2A
11C92;MARCHEN SUBJOgm a KA;3KHA;3GA;3NGA;3CA;3CHA;3JA;3NYA;3TA;3THA;3DA;3NA;3PA;3PHA;3BA;3MA;3TSA
11CA3;MARCHEN SUBJOgm a TSHA;3DZA;3WA;3ZHA;3ZA
11CA9;MARCHEN SUBJOgm a YA;3RA;3LA;3SHA;3SA;3HA;3A;1VOWEL n AA;3I;3U;3E;3O;1n ANUSVARA;2ClRABgDU
11D00;MASARAM GONDI a A;3AA;3I;3II;3U;3UU;3E
11D08;MASARAM GONDI a AI;3O
11D0B;MASARAM GONDI a AU;3KA;3KHA;3GA;3GHA;3NGA;3CA;3CHA;3JA;3JHA;3NYA;3TTA;3TTHA;3DDA;3DDHA;3NNA
11D1B;MASARAM GONDI a TA;3THA;3DA;3DHA;3NA;3PA;3PHA;3BA;3BHA;3MA;3YA;3RA;3LA;3VA;3SHA;3SSA;3SA;3HA
11D2D;MASARAM GONDI a LLA;3KSSA;3JNYA;3TRA;2VOWEL n AA;4I;4II;4U;4UU;4VOCALIC R
11D3A;MASARAM GONDI VOWEL n E
11D3C;MASARAM GONDI VOWEL n AI;4O
11D3F;MASARAM GONDI VOWEL n AU;2n ANUSVARA;3VISARGA;3NUKTA;3ClRA;3HALANTA;2VIRAMA;2REPHA;2RA-KARA
11D50;MASARAM GONDI DIGIT ZiO;3ONE;3TWO;3THREE;3FOUR;3FIVE;3SIX;3SEVEN;3Ef;3NgE
11D60;GUNJALA GONDI a A;3AA;3I;3II;3U;3UU
11D67;GUNJALA GONDI a EE;3AI
11D6A;GUNJALA GONDI a OO;3AU;3YA;3VA;3BA;3BHA;3MA;3KA;3KHA;3TA;3THA;3LA;3GA;3GHA;3DA;3DHA;3NA;3CA
11D7C;GUNJALA GONDI a CHA;3TTA;3TTHA;3LLA;3JA;3JHA;3DDA;3DDHA;3NGA;3PA;3PHA;3HA;3RA;3SA
11D8A;GUNJALA GONDI VOWEL n AA;4I;4II;4U;4UU
11D90;GUNJALA GONDI VOWEL n EE;4AI
11D93;GUNJALA GONDI VOWEL n OO;4AU;2n ANUSVARA;3VISARGA;2VIRAMA;2OM
11DA0;GUNJALA GONDI DIGIT ZiO;3ONE;3TWO;3THREE;3FOUR;3FIVE;3SIX;3SEVEN;3Ef;3NgE
11EE0;MAKASAR a KA;2GA;2NGA;2PA;2BA;2MA;2TA;2DA;2NA;2CA;2JA;2NYA;2YA;2RA;2LA;2VA;2SA;2A;1ANGKA
11EF3;MAKASAR VOWEL n I;3U;3E;3O;1PASSIMBANG;1END OF SECv
11FB0;LISU a YHA
11FC0;TAMIL FRACv ONE THREE-HUNDRm-l-TWENTIETH;3ONE-HUNDRm-l-SIXTIETH;3EfIETH;3SIXTY-FOURTH
11FC4;TAMIL FRACv ONE FORTIETH;3THIRTY-SECOND;2THREE EfIETHS;3SIXTY-FOURTHS;2ONE TWENTIETH
11FC9;TAMIL FRACv ONE SIXTEENTH-1;3SIXTEENTH-2;3TENTH;3EfH;2THREE TWENTIETHS;3SIXTEENTHS
11FCF;TAMIL FRACv ONE FIFTH;3QUARTi;3HALF-1;3HALF-2;2THREE QUARTiS;2DOWNSCALgG FACTOR KIIZH;1n NEL
11FD6;TAMIL n CEVITU;2AAZHAAKKU;2UZHAKKU;2MUUVUZHAKKU;2KURUNI;2PATHAKKU;2MUKKURUNI;2KAACU;2PANAM
11FDF;TAMIL n PON;2VARAAKAN;2PAARAM;2KUZHI;2VELI;1WET CULTIVAv n;1DRY CULTIVAv n;1Ll n;1SALT PAN n
11FE8;TAMIL TRADIvAL CRmIT n;2NUMBi n;1CURRENT n;1l ODD n;1SPENT n;1TOTAL n;1g POSSESSION n
11FEF;TAMIL STARTgG FROM n;1n MUTHALIYA;2VAKAIYARAA
11FFF;TAMIL PUNCTUAv END OF TEXT;CUNEIj n A;3TIMES A;4BAD;4GAN2 TENU;4HA;4IGI;4LAGAR GUNU;4MUSH
12008;CUNEIj n A TIMES SAG;2A2;2AB;3TIMES ASH2;4DUN3 GUNU;4GAL;4GAN2 TENU;4HA;4IGI GUNU;4IMg
12012;CUNEIj n AB TIMES LAGAB;4SHESH;4U PLUS U PLUS U;3GUNU;2AB2;3TIMES BALAG;4GAN2 TENU
12019;CUNEIj n AB2 TIMES ME PLUS EN;4SHA3;4TAK4;2AD;2AK;3TIMES ig2;4SHITA PLUS GISH;2AL;3TIMES AL
12022;CUNEIj n AL TIMES DIM2;4GISH;4HA;4KAD3;4KI;4SHE;4USH;2ALAN;2ALEPH;2AMAR;3TIMES SHE;2AN
1202E;CUNEIj n AN OVi AN;3THREE TIMES;3PLUS NAGA OPPOSgG AN PLUS NAGA;5SQUARm;2ANSHE;2APg;2ARAD
12035;CUNEIj n ARAD TIMES KUR;2ARKAB;2ASAL2;2ASH;3ZIDA TENU;3KABA TENU
1203B;CUNEIj n ASH OVi ASH TUG2 OVi TUG2 TUG2 OVi TUG2 PAP;5OVi ASH;7CROSSgG ASH OVi ASH OVi ASH
1203E;CUNEIj n ASH2;2ASHGAB;2BA;2BAD;2BAG3;2BAHAR2;2BAL;3OVi BAL;2BALAG;2BAR;2BARA2;2BI;3TIMES A
1204B;CUNEIj n BI TIMES GAR;4IGI GUNU;2BU;3OVi BU AB;5UN;3CROSSgG BU;2BULUG;3OVi BULUG;2BUR;2BUR2
12055;CUNEIj n DA;2DAG;3KISIM5 TIMES A PLUS MASH;5AMAR;5BALAG;5BI;5GA;6PLUS MASH;5GI;5GIR2;5GUD
12060;CUNEIj n DAG KISIM5 TIMES HA;5IR;6PLUS LU;5KAK;5LA;5LU;6PLUS MASH2;5LUM;5NE;5PAP PLUS PAP
1206A;CUNEIj n DAG KISIM5 TIMES SI;5TAK4;5U2 PLUS GIR2;5USH;2DAM;2DAR;2DARA3;2DARA4;2DI;2DIB;2DIM
12075;CUNEIj n DIM TIMES SHE;2DIM2;2Dg;3KASKAL U GUNU DISH;2DISH;2DU;3OVi DU;3GUNU;3SHESHIG;2DUB
1207F;CUNEIj n DUB TIMES ESH2;2DUB2;2DUG;2DUGUD;2DUH;2DUN;2DUN3;3GUNU;4GUNU;2DUN4;2DUR2;2E
1208B;CUNEIj n E TIMES PAP;3OVi E NUN OVi NUN;2E2;3TIMES A PLUS HA PLUS DA;4GAR;4MI;4SAL;4SHE;4U
12094;CUNEIj n mg;2EGIR;2EL;2EN;3TIMES GAN2;5TENU;4ME;3CROSSgG EN;3OPPOSgG EN;3SQUARm;2iEN;2ig2
120A0;CUNEIj n ESH2;2EZEN;3TIMES A;5PLUS LAL;7TIMES LAL;4AN;4BAD;4DUN3 GUNU;6GUNU;4HA;5GUNU
120AB;CUNEIj n EZEN TIMES IGI GUNU;4KASKAL;5SQUARm;4KU3;4LA;4LAL TIMES LAL;4LI;4LU;4U2;4UD;2GA
120B6;CUNEIj n GA GUNU;2GA2;3TIMES A PLUS DA PLUS HA;6HA;6IGI;4AB2 TENU PLUS TAB;4AN;4ASH
120BE;CUNEIj n GA2 TIMES ASH2 PLUS GAL;4BAD;4BAR PLUS RA;4BUR;5PLUS RA;4DA;4DI;4DIM TIMES SHE;4DUB
120C7;CUNEIj n GA2 TIMES EL;5PLUS LA;4EN;5TIMES GAN2 TENU;4GAN2 TENU;4GAR;4GI;4GI4;5PLUS A
120D0;CUNEIj n GA2 TIMES GIR2 PLUS SU;4HA PLUS LU PLUS ESH2;4HAL;5PLUS LA;4HI PLUS LI;4HUB2
120D6;CUNEIj n GA2 TIMES IGI GUNU;4ISH PLUS HU PLUS ASH;4KAK;4KASKAL;4KID;5PLUS LAL;4KU3 PLUS AN
120DD;CUNEIj n GA2 TIMES LA;4ME PLUS EN;4MI;4NUN;5OVi NUN;4PA;4SAL;4SAR;4SHE;5PLUS TUR;4SHID;4SUM
120E9;CUNEIj n GA2 TIMES TAK4;4U;4UD;5PLUS DU;3OVi GA2;2GABA;3CROSSgG GABA;2GAD
120F1;CUNEIj n GAD OVi GAD GAR OVi GAR;2GAL;3GAD OVi GAD GAR OVi GAR;2GALAM;2GAM;2GAN;2GAN2;3TENU
120F9;CUNEIj n GAN2 OVi GAN2;3CROSSgG GAN2;2GAR;2GAR3;2GASHAN;2GESHTg;3TIMES KUR;2GI;3TIMES E;4U
12103;CUNEIj n GI CROSSgG GI;2GI4;3OVi GI4;3CROSSgG GI4;2GIDIM;2GIR2;3GUNU;2GIR3;3TIMES A PLUS IGI
1210C;CUNEIj n GIR3 TIMES GAN2 TENU;4IGI;4LU PLUS IGI;4PA;2GISAL;2GISH;3CROSSgG GISH;3TIMES BAD
12114;CUNEIj n GISH TIMES TAK4;3TENU;2GU;3CROSSgG GU;2GU2;3TIMES KAK;5TIMES IGI GUNU;4NUN
1211C;CUNEIj n GU2 TIMES SAL PLUS TUG2;3GUNU;2GUD;3TIMES A PLUS KUR;4KUR;3OVi GUD LUGAL;2GUL;2GUM
12124;CUNEIj n GUM TIMES SHE;2GUR;2GUR7;2GURUN;2GURUSH;2HA;3TENU;3GUNU;2HAL;2HI;3TIMES ASH;4ASH2
12130;CUNEIj n HI TIMES BAD;4DISH;4GAD;4Kg;4NUN;4SHE;4U;2HU;2HUB2;3TIMES AN;4HAL;4KASKAL;4LISH;4UD
1213E;CUNEIj n HUL2;2I;3A;2IB;2IDIM;3OVi IDIM BUR;5SQUARm;2IG;2IGI;3DIB;3RI
12149;CUNEIj n IGI OVi IGI SHIR OVi SHIR UD OVi UD;3GUNU;2IL;3TIMES GAN2 TENU;2IL2;2IM;3TIMES TAK4
12150;CUNEIj n IM CROSSgG IM;3OPPOSgG IM;3SQUARm;2IMg;2g;2IR;2ISH;2KA;3TIMES A;4AD;5PLUS KU3;4ASH2
1215C;CUNEIj n KA TIMES BAD;4BALAG;4BAR;4BI;4ig2;4ESH2;4GA;4GAL;4GAN2 TENU;4GAR;5PLUS SHA3 PLUS A
12167;CUNEIj n KA TIMES GI;4GIR2;4GISH PLUS SAR;5CROSSgG GISH;4GU;4GUR7;4IGI;4IM;4KAK;4KI;4KID;4LI
12173;CUNEIj n KA TIMES LU;4ME;5PLUS DU;6GI;6TE;4MI;5PLUS NUNUZ;4NE;4NUN;4PI;4RU;4SA;4SAR;4SHA
12181;CUNEIj n KA TIMES SHE;4SHID;4SHU;4SIG;4SUHUR;4TAR;4U;4U2;4UD;4UMUM TIMES PA;4USH;4ZI;2KA2
1218E;CUNEIj n KA2 CROSSgG KA2;2KAB;2KAD2;2KAD3;2KAD4;2KAD5;3OVi KAD5;2KAK;3TIMES IGI GUNU;2KAL
12198;CUNEIj n KAL TIMES BAD;3CROSSgG KAL;2KAM2;2KAM4;2KASKAL;3LAGAB TIMES U OVi LAGAB TIMES U
1219E;CUNEIj n KASKAL OVi KASKAL LAGAB TIMES U OVi LAGAB TIMES U;2KESH2;2KI;3TIMES BAD;4U;4UD;2KID
121A5;CUNEIj n Kg;2KISAL;2KISH;2KISIM5;3OVi KISIM5;2KU;3OVi HI TIMES ASH2 KU OVi HI TIMES ASH2
121AC;CUNEIj n KU3;2KU4;3VARIANT j;2KU7;2KUL;3GUNU;2KUN;2KUR;3OPPOSgG KUR;2KUSHU2;2KWU318;2LA
121B8;CUNEIj n LAGAB;3TIMES A;5PLUS DA PLUS HA;6GAR;6LAL;4AL;4AN;4ASH ZIDA TENU;4BAD;4BI;4DAR;4EN
121C4;CUNEIj n LAGAB TIMES GA;4GAR;4GUD;5PLUS GUD;4HA;4HAL;4HI TIMES NUN;4IGI GUNU;4IM;5PLUS HA
121CE;CUNEIj n LAGAB TIMES IM PLUS LU;4KI;4Kg;4KU3;4KUL;5PLUS HI PLUS A;4LAGAB;4LISH;4LU;4LUL;4ME
121D9;CUNEIj n LAGAB TIMES ME PLUS EN;4MUSH;4NE;4SHE PLUS SUM;4SHITA PLUS GISH PLUS ig2;7TENU
121DF;CUNEIj n LAGAB TIMES SHU2;5PLUS SHU2;4SUM;4TAG;4TAK4;4TE PLUS A PLUS SU PLUS NA;4U;5PLUS A
121E7;CUNEIj n LAGAB TIMES U PLUS U PLUS U;4U2 PLUS ASH;4UD;4USH;3SQUARm;2LAGAR;3TIMES SHE
121EE;CUNEIj n LAGAR TIMES SHE PLUS SUM;3GUNU;4OVi LAGAR GUNU SHE;2LAHSHU;2LAL;3TIMES LAL;2LAM
121F5;CUNEIj n LAM TIMES KUR;5PLUS RU;2LI;2LIL;2LIMMU2;2LISH;2LU;3TIMES BAD;2LU2;3TIMES AL;4BAD
12200;CUNEIj n LU2 TIMES ESH2;5TENU;4GAN2 TENU;4HI TIMES BAD;4IM;4KAD2;4KAD3;5PLUS ASH;4KI
12209;CUNEIj n LU2 TIMES LA PLUS ASH;4LAGAB;4ME PLUS EN;4NE;4NU;4SI PLUS ASH;4SIK2 PLUS BU;4TUG2
12211;CUNEIj n LU2 TENU;3CROSSgG LU2;3OPPOSgG LU2;3SQUARm;3SHESHIG;2LU3;2LUGAL;3OVi LUGAL
12219;CUNEIj n LUGAL OPPOSgG LUGAL;3SHESHIG;2LUH;2LUL;2LUM;3OVi LUM;5GAR OVi GAR;2MA;3TIMES TAK4
12222;CUNEIj n MA GUNU;2MA2;2MAH;2MAR;2MASH;2MASH2;2ME;2MES;2MI;2Mg;2MU;3OVi MU;2MUG;3GUNU;2MUNSUB
12231;CUNEIj n MURGU2;2MUSH;3TIMES A;4KUR;4ZA;3OVi MUSH;5TIMES A PLUS NA;3CROSSgG MUSH;2MUSH3
1223A;CUNEIj n MUSH3 TIMES A;5PLUS DI;4DI;3GUNU;2NA;2NA2;2NAGA;3gViTm;3TIMES SHU TENU
12243;CUNEIj n NAGA OPPOSgG NAGA;2NAGAR;2NAM NUTILLU;2NAM;2NAM2;2NE;3TIMES A;4UD;3SHESHIG;2NI
1224D;CUNEIj n NI TIMES E;2NI2;2NIM;3TIMES GAN2 TENU;4GAR PLUS GAN2 TENU;2NgDA2;3TIMES AN;4ASH
12255;CUNEIj n NgDA2 TIMES ASH PLUS ASH;4GUD;4ME PLUS GAN2 TENU;4NE;4NUN;4SHE;5PLUS A AN;6ASH
1225D;CUNEIj n NgDA2 TIMES SHE PLUS ASH PLUS ASH;4U2 PLUS ASH;4USH;2NISAG;2NU;2NU11;2NUN
12264;CUNEIj n NUN LAGAR TIMES GAR;5MASH;5SAL;6OVi NUN LAGAR TIMES SAL;5USH;3TENU;3OVi NUN
1226B;CUNEIj n NUN CROSSgG NUN;5LAGAR OVi LAGAR;2NUNUZ;3AB2 TIMES ASHGAB;5BI;5DUG;5GUD;5IGI GUNU
12273;CUNEIj n NUNUZ AB2 TIMES KAD3;5LA;5NE;5SILA3;5U2;3KISIM5 TIMES BI;6U;2PA;2PAD;2PAN;2PAP
1227E;CUNEIj n PESH2;2PI;3TIMES A;4AB;4BI;4BU;4E;4I;4IB;4U;4U2;3CROSSgG PI;2PIRIG;3TIMES KAL;4UD
1228D;CUNEIj n PIRIG TIMES ZA;3OPPOSgG PIRIG;2RA;2RAB;2RI;2RU;2SA;2SAG NUTILLU;2SAG;3TIMES A;4DU
12298;CUNEIj n SAG TIMES DUB;4HA;4KAK;4KUR;4LUM;4MI;4NUN;4SAL;4SHID;4TAB;4U2;4UB;4UM;4UR;4USH
122A7;CUNEIj n SAG OVi SAG;3GUNU;2SAL;3LAGAB TIMES ASH2;2SANGA2;2SAR;2SHA;2SHA3;3TIMES A;4BAD
122B1;CUNEIj n SHA3 TIMES GISH;4NE;4SHU2;4TUR;4U;5PLUS A;2SHA6;2SHAB6;2SHAR2;2SHE;3HU
122BC;CUNEIj n SHE OVi SHE GAD OVi GAD GAR OVi GAR;5TAB OVi TAB GAR OVi GAR;2SHEG9;2SHEN;2SHESH
122C1;CUNEIj n SHESH2;2SHESHLAM;2SHID;3TIMES A;4IM;2SHIM;3TIMES A;4BAL;4BULUG;4Dg;4GAR;4IGI;5GUNU
122CE;CUNEIj n SHIM TIMES KUSHU2;4LUL;4MUG;4SAL;2SHgIG;2SHIR;3TENU;3OVi SHIR BUR OVi BUR;2SHITA
122D7;CUNEIj n SHU;3OVi gViTm SHU;2SHU2;2SHUBUR;2SI;3GUNU;2SIG;2SIG4;3OVi SIG4 SHU2;2SIK2;2SILA3
122E2;CUNEIj n SU;3OVi SU;2SUD;2SUD2;2SUHUR;2SUM;2SUMASH;2SUR;2SUR9;2TA;3ASTiISK;3TIMES HI;4MI
122EF;CUNEIj n TA GUNU;2TAB;3OVi TAB NI OVi NI DISH OVi DISH;3SQUARm;2TAG;3TIMES BI;4GUD;4SHE;4SHU
122F8;CUNEIj n TAG TIMES TUG2;4UD;2TAK4;2TAR;2TE;3GUNU;2TI;3TENU;2TIL;2TIR;3TIMES TAK4;3OVi TIR
12304;CUNEIj n TIR OVi TIR GAD OVi GAD GAR OVi GAR;2TU;2TUG2;2TUK;2TUM;2TUR;3OVi TUR ZA OVi ZA;2U
1230C;CUNEIj n U GUD;3U U;3OVi U PA OVi PA GAR OVi GAR;5SUR OVi SUR;5U REViSm OVi U REViSm;2U2;2UB
12313;CUNEIj n UD;3KUSHU2;3TIMES BAD;4MI;4U PLUS U PLUS U;9GUNU;3GUNU;3SHESHIG;4TIMES BAD;2UDUG
1231D;CUNEIj n UM;3TIMES LAGAB;4ME PLUS DA;4SHA3;4U;2UMBg;2UMUM;3TIMES KASKAL;4PA;2UN;3GUNU;2UR
12329;CUNEIj n UR CROSSgG UR;3SHESHIG;2UR2;3TIMES A PLUS HA;6NA;4AL;4HA;4NUN;4U2;5PLUS ASH;6BI
12334;CUNEIj n UR4;2URI;2URI3;2URU;3TIMES A;4ASHGAB;4BAR;4DUN;4GA;4GAL;4GAN2 TENU;4GAR;4GU;4HA
12342;CUNEIj n URU TIMES IGI;4IM;4ISH;4KI;4LUM;4Mg;4PA;4SHE;4SIG4;4TU;4U PLUS GUD;4UD;4URUDA
1234F;CUNEIj n URUDA;3TIMES U;2USH;3TIMES A;4KU;4KUR;4TAK4;2USHX;2USH2;2USHUMX;2UTUKI;2UZ3
1235B;CUNEIj n UZ3 TIMES KASKAL;2UZU;2ZA;3TENU;3SQUARm TIMES KUR;2ZAG;2ZAMX;2ZE2;2ZI;3OVi ZI;2ZI3
12366;CUNEIj n ZIB;3KABA TENU;2ZIG;2ZIZ2;2ZU;2ZU5;3TIMES A;2ZUBUR;2ZUM;2KAP ELAMITE;2AB TIMES NUN
12371;CUNEIj n AB2 TIMES A;2AMAR TIMES KUG;2DAG KISIM5 TIMES U2 PLUS MASH;2DAG3;2DISH PLUS SHU
12376;CUNEIj n DUB TIMES SHE;2EZEN TIMES GUD;4SHE;2GA2 TIMES AN PLUS KAK PLUS A;4ASH2;2GE22;2GIG
1237D;CUNEIj n HUSH;2KA TIMES ANSHE;4ASH3;4GISH;4GUD;4HI TIMES ASH2;4LUM;4PA;4SHUL;4TU;4UR2
12388;CUNEIj n LAGAB TIMES GI;2LU2 SHESHIG TIMES BAD;3TIMES ESH2 PLUS LAL;4SHU;2MESH
1238D;CUNEIj n MUSH3 TIMES ZA;2NA4;2Ng;2Ng9;2NgDA2 TIMES BAL;4GI;2NU11 ROTATm NgETY DEGREES
12394;CUNEIj n PESH2 ASTiISK;2PIR2;2SAG TIMES IGI GUNU;2TI2;2UM TIMES ME;2U U
12400;CUNEIj NUMiIC n TWO ASH;3THREE ASH;3FOUR ASH;3FIVE ASH;3SIX ASH;3SEVEN ASH;3Ef ASH;3NgE ASH
12408;CUNEIj NUMiIC n THREE DISH;3FOUR DISH;3FIVE DISH;3SIX DISH;3SEVEN DISH;3Ef DISH;3NgE DISH
1240F;CUNEIj NUMiIC n FOUR U;3FIVE U;3SIX U;3SEVEN U;3Ef U;3NgE U;3ONE GESH2;3TWO GESH2
12417;CUNEIj NUMiIC n THREE GESH2;3FOUR GESH2;3FIVE GESH2;3SIX GESH2;3SEVEN GESH2;3Ef GESH2
1241D;CUNEIj NUMiIC n NgE GESH2;3ONE GESHU;3TWO GESHU;3THREE GESHU;3FOUR GESHU;3FIVE GESHU
12423;CUNEIj NUMiIC n TWO SHAR2;3THREE SHAR2;5VARIANT j;3FOUR SHAR2;3FIVE SHAR2;3SIX SHAR2
12429;CUNEIj NUMiIC n SEVEN SHAR2;3Ef SHAR2;3NgE SHAR2;3ONE SHARU;3TWO SHARU;3THREE SHARU
1242F;CUNEIj NUMiIC n THREE SHARU VARIANT j;3FOUR SHARU;3FIVE SHARU;3SHAR2 TIMES GAL PLUS DISH;7Mg
12434;CUNEIj NUMiIC n ONE BURU;3TWO BURU;3THREE BURU;5VARIANT j;3FOUR BURU;3FIVE BURU
1243A;CUNEIj NUMiIC n THREE VARIANT j ESH16;6ESH21;3FOUR VARIANT j LIMMU;6LIMMU4;6LIMMU A;7B
12440;CUNEIj NUMiIC n SIX VARIANT j ASH9;3SEVEN VARIANT j IMg3;6IMg A;7B;3Ef VARIANT j USSU;6USSU3
12446;CUNEIj NUMiIC n NgE VARIANT j ILIMMU;6ILIMMU3;6ILIMMU4;6ILIMMU A;3TWO ASH TENU
1244B;CUNEIj NUMiIC n THREE ASH TENU;3FOUR ASH TENU;3FIVE ASH TENU;3SIX ASH TENU;3ONE BAN2
12450;CUNEIj NUMiIC n TWO BAN2;3THREE BAN2;3FOUR BAN2;5VARIANT j;3FIVE BAN2;5VARIANT j;3NIGIDAMg
12457;CUNEIj NUMiIC n NIGIDAESH;3ONE ESHE3;3TWO ESHE3;3ONE THIRD DISH;3TWO THIRDS DISH
1245C;CUNEIj NUMiIC n FIVE SIXTHS DISH;3ONE THIRD VARIANT j A;3TWO THIRDS VARIANT j A;3ONE EfH ASH
12460;CUNEIj NUMiIC n ONE QUARTi ASH;3OLD ASSYRIAN ONE SIXTH;6QUARTi;3ONE QUARTi GUR;4HALF GUR
12465;CUNEIj NUMiIC n ELAMITE ONE THIRD;4TWO THIRDS;4FORTY;4FIFTY;3FOUR U VARIANT j
1246A;CUNEIj NUMiIC n FIVE U VARIANT j;3SIX U VARIANT j;3SEVEN U VARIANT j;3Ef U VARIANT j
1246E;CUNEIj NUMiIC n NgE U VARIANT j
12470;CUNEIj PUNCTUAv n OLD ASSYRIAN WORD DIVIDi;3ViTICAL COLON;3DIAGONAL COLON;4TRICOLON
12474;CUNEIj PUNCTUAv n DIAGONAL QUADCOLON
12480;CUNEIj n AB TIMES NUN TENU;4SHU2;2AD TIMES ESH2;2BAD TIMES DISH TENU;2BAHAR2 TIMES AB2;4NI
12486;CUNEIj n BAHAR2 TIMES ZA;2BU OVi BU TIMES NA2;2DA TIMES TAK4;2DAG TIMES KUR;2DIM TIMES IGI
1248B;CUNEIj n DIM TIMES U U U;2DIM2 TIMES UD;2DUG TIMES ANSHE;4ASH;5AT p;4Dg;4DUN;4ig2;4GA;4GI
12495;CUNEIj n DUG TIMES GIR2 GUNU;4GISH;4HA;4HI;4IGI GUNU;4KASKAL;4KUR;4KUSHU2;5PLUS KASKAL
1249E;CUNEIj n DUG TIMES LAK-020;4LAM;5TIMES KUR;4LUH PLUS GISH;4MASH;4MES;4MI;4NI;4PI;4SHE
124A8;CUNEIj n DUG TIMES SI GUNU;2E2 TIMES KUR;4PAP;2ig2 X;2ESH2 CROSSgG ESH2
124AD;CUNEIj n EZEN SHESHIG TIMES ASH;5HI;5IGI GUNU;5LA;5LAL;5ME;5MES;5SU;3TIMES SU
124B6;CUNEIj n GA2 TIMES BAHAR2;4DIM GUNU;4DUG TIMES IGI GUNU;6KASKAL;4iEN;4GA;4GAR PLUS DI;6NE
124BE;CUNEIj n GA2 TIMES HA PLUS A;4KUSHU2 PLUS KASKAL;4LAM;5TIMES KUR;4LUH;4MUSH;4NE;5PLUS E2;6GI
124C7;CUNEIj n GA2 TIMES SHIM;4ZIZ2;2GABA ROTATm NgETY DEGREES;2GESHTg TIMES U
124CB;CUNEIj n GISH TIMES GISH CROSSgG GISH;2GU2 TIMES IGI GUNU;2GUD PLUS GISH TIMES TAK4
124CE;CUNEIj n HA TENU GUNU;2HI TIMES ASH OVi HI TIMES ASH;2KA TIMES BU;4KA;4U U U;4UR
124D4;CUNEIj n LAGAB TIMES ZU OVi ZU;2LAK-003;2LAK-021;2LAK-025;2LAK-030;2LAK-050;2LAK-051
124DB;CUNEIj n LAK-062;2LAK-079 OVi LAK-079 GUNU;2LAK-080;2LAK-081 OVi LAK-081;2LAK-092;2LAK-130
124E1;CUNEIj n LAK-142;2LAK-210;2LAK-219;2LAK-220;2LAK-225;2LAK-228;2LAK-238;2LAK-265;2LAK-266
124EA;CUNEIj n LAK-343;2LAK-347;2LAK-348;2LAK-383;2LAK-384;2LAK-390;2LAK-441;2LAK-449;3TIMES GU
124F3;CUNEIj n LAK-449 TIMES IGI;4PAP PLUS LU3;6PAP PLUS LU3;4U2 PLUS BA;2LAK-450;2LAK-457
124F9;CUNEIj n LAK-470;2LAK-483;2LAK-490;2LAK-492;2LAK-493;2LAK-495;2LAK-550;2LAK-608;2LAK-617
12502;CUNEIj n LAK-617 TIMES ASH;4BAD;4DUN3 GUNU GUNU;4KU3;4LA;4TAR;4TE;4U2;4UD;4URUDA;2LAK-636
1250D;CUNEIj n LAK-648;3TIMES DUB;4GA;4IGI;5GUNU;4NI;4PAP PLUS PAP PLUS LU3;4SHESH PLUS KI;4UD
12516;CUNEIj n LAK-648 TIMES URUDA;2LAK-724;2LAK-749;2LU2 GUNU TIMES ASH;3TIMES DISH;4HAL;4PAP
1251D;CUNEIj n LU2 TIMES PAP PLUS PAP PLUS LU3;4TAK4;2MI PLUS ZA7;2MUSH OVi MUSH TIMES GA;6KAK
12522;CUNEIj n NgDA2 TIMES DIM GUNU;4GISH;4GUL;4HI;4KESH2;4LAK-050;4MASH;4PAP PLUS PAP;4U;5PLUS U
1252C;CUNEIj n NgDA2 TIMES URUDA;2SAG GUNU TIMES HA;3TIMES EN;4SHE AT p;4TAK4;2SHA6 TENU
12532;CUNEIj n SHE OVi SHE;3PLUS HUB2;4NAM2;4SAR;2SHU2 PLUS DUG TIMES NI;4E2 TIMES AN
12538;CUNEIj n SI TIMES TAK4;2TAK4 PLUS SAG;2TUM TIMES GAN2 TENU;4THREE DISH;2UR2 gViTm;3TIMES UD
1253E;CUNEIj n URU TIMES DARA3;4LAK-668;4LU3;2ZA7;2ZU OVi ZU PLUS SAR;2ZU5 TIMES THREE DISH TENU
12F90;CYPRO-MgOAN n CM001;2CM002;2CM004;2CM005;2CM006;2CM007;2CM008;2CM009;2CM010;2CM011;2CM012
12F9B;CYPRO-MgOAN n CM012B;2CM013;2CM015;2CM017;2CM019;2CM021;2CM023;2CM024;2CM025;2CM026;2CM027
12FA6;CYPRO-MgOAN n CM028;2CM029;2CM030;2CM033;2CM034;2CM035;2CM036;2CM037;2CM038;2CM039;2CM040
12FB1;CYPRO-MgOAN n CM041;2CM044;2CM046;2CM047;2CM049;2CM050;2CM051;2CM052;2CM053;2CM054;2CM055
12FBC;CYPRO-MgOAN n CM056;2CM058;2CM059;2CM060;2CM061;2CM062;2CM063;2CM064;2CM066;2CM067;2CM068
12FC7;CYPRO-MgOAN n CM069;2CM070;2CM071;2CM072;2CM073;2CM074;2CM075;2CM075B;2CM076;2CM078;2CM079
12FD2;CYPRO-MgOAN n CM080;2CM081;2CM082;2CM083;2CM084;2CM085;2CM086;2CM087;2CM088;2CM089;2CM090
12FDD;CYPRO-MgOAN n CM091;2CM092;2CM094;2CM095;2CM096;2CM097;2CM098;2CM099;2CM100;2CM101;2CM102
12FE8;CYPRO-MgOAN n CM103;2CM104;2CM105;2CM107;2CM108;2CM109;2CM110;2CM112;2CM114;2CM301;2CM302
13000;EGYPTIAN HIiOGLYPH A001;2A002;2A003;2A004;2A005;2A005A;2A006;2A006A;2A006B;2A007;2A008;2A009
1300C;EGYPTIAN HIiOGLYPH A010;2A011;2A012;2A013;2A014;2A014A;2A015;2A016;2A017;2A017A;2A018;2A019
13018;EGYPTIAN HIiOGLYPH A020;2A021;2A022;2A023;2A024;2A025;2A026;2A027;2A028;2A029;2A030;2A031
13024;EGYPTIAN HIiOGLYPH A032;2A032A;2A033;2A034;2A035;2A036;2A037;2A038;2A039;2A040;2A040A;2A041
13030;EGYPTIAN HIiOGLYPH A042;2A042A;2A043;2A043A;2A044;2A045;2A045A;2A046;2A047;2A048;2A049;2A050
1303C;EGYPTIAN HIiOGLYPH A051;2A052;2A053;2A054;2A055;2A056;2A057;2A058;2A059;2A060;2A061;2A062
13048;EGYPTIAN HIiOGLYPH A063;2A064;2A065;2A066;2A067;2A068;2A069;2A070;2B001;2B002;2B003;2B004
13054;EGYPTIAN HIiOGLYPH B005;2B005A;2B006;2B007;2B008;2B009;2C001;2C002;2C002A;2C002B;2C002C
1305F;EGYPTIAN HIiOGLYPH C003;2C004;2C005;2C006;2C007;2C008;2C009;2C010;2C010A;2C011;2C012;2C013
1306B;EGYPTIAN HIiOGLYPH C014;2C015;2C016;2C017;2C018;2C019;2C020;2C021;2C022;2C023;2C024;2D001
13077;EGYPTIAN HIiOGLYPH D002;2D003;2D004;2D005;2D006;2D007;2D008;2D008A;2D009;2D010;2D011;2D012
13083;EGYPTIAN HIiOGLYPH D013;2D014;2D015;2D016;2D017;2D018;2D019;2D020;2D021;2D022;2D023;2D024
1308F;EGYPTIAN HIiOGLYPH D025;2D026;2D027;2D027A;2D028;2D029;2D030;2D031;2D031A;2D032;2D033;2D034
1309B;EGYPTIAN HIiOGLYPH D034A;2D035;2D036;2D037;2D038;2D039;2D040;2D041;2D042;2D043;2D044;2D045
130A7;EGYPTIAN HIiOGLYPH D046;2D046A;2D047;2D048;2D048A;2D049;2D050;2D050A;2D050B;2D050C;2D050D
130B2;EGYPTIAN HIiOGLYPH D050E;2D050F;2D050G;2D050H;2D050I;2D051;2D052;2D052A;2D053;2D054;2D054A
130BD;EGYPTIAN HIiOGLYPH D055;2D056;2D057;2D058;2D059;2D060;2D061;2D062;2D063;2D064;2D065;2D066
130C9;EGYPTIAN HIiOGLYPH D067;2D067A;2D067B;2D067C;2D067D;2D067E;2D067F;2D067G;2D067H;2E001;2E002
130D4;EGYPTIAN HIiOGLYPH E003;2E004;2E005;2E006;2E007;2E008;2E008A;2E009;2E009A;2E010;2E011;2E012
130E0;EGYPTIAN HIiOGLYPH E013;2E014;2E015;2E016;2E016A;2E017;2E017A;2E018;2E019;2E020;2E020A;2E021
130EC;EGYPTIAN HIiOGLYPH E022;2E023;2E024;2E025;2E026;2E027;2E028;2E028A;2E029;2E030;2E031;2E032
130F8;EGYPTIAN HIiOGLYPH E033;2E034;2E034A;2E036;2E037;2E038;2F001;2F001A;2F002;2F003;2F004;2F005
13104;EGYPTIAN HIiOGLYPH F006;2F007;2F008;2F009;2F010;2F011;2F012;2F013;2F013A;2F014;2F015;2F016
13110;EGYPTIAN HIiOGLYPH F017;2F018;2F019;2F020;2F021;2F021A;2F022;2F023;2F024;2F025;2F026;2F027
1311C;EGYPTIAN HIiOGLYPH F028;2F029;2F030;2F031;2F031A;2F032;2F033;2F034;2F035;2F036;2F037;2F037A
13128;EGYPTIAN HIiOGLYPH F038;2F038A;2F039;2F040;2F041;2F042;2F043;2F044;2F045;2F045A;2F046;2F046A
13134;EGYPTIAN HIiOGLYPH F047;2F047A;2F048;2F049;2F050;2F051;2F051A;2F051B;2F051C;2F052;2F053
1313F;EGYPTIAN HIiOGLYPH G001;2G002;2G003;2G004;2G005;2G006;2G006A;2G007;2G007A;2G007B;2G008;2G009
1314B;EGYPTIAN HIiOGLYPH G010;2G011;2G011A;2G012;2G013;2G014;2G015;2G016;2G017;2G018;2G019;2G020
13157;EGYPTIAN HIiOGLYPH G020A;2G021;2G022;2G023;2G024;2G025;2G026;2G026A;2G027;2G028;2G029;2G030
13163;EGYPTIAN HIiOGLYPH G031;2G032;2G033;2G034;2G035;2G036;2G036A;2G037;2G037A;2G038;2G039;2G040
1316F;EGYPTIAN HIiOGLYPH G041;2G042;2G043;2G043A;2G044;2G045;2G045A;2G046;2G047;2G048;2G049;2G050
1317B;EGYPTIAN HIiOGLYPH G051;2G052;2G053;2G054;2H001;2H002;2H003;2H004;2H005;2H006;2H006A;2H007
13187;EGYPTIAN HIiOGLYPH H008;2I001;2I002;2I003;2I004;2I005;2I005A;2I006;2I007;2I008;2I009;2I009A
13193;EGYPTIAN HIiOGLYPH I010;2I010A;2I011;2I011A;2I012;2I013;2I014;2I015;2K001;2K002;2K003;2K004
1319F;EGYPTIAN HIiOGLYPH K005;2K006;2K007;2K008;2L001;2L002;2L002A;2L003;2L004;2L005;2L006;2L006A
131AB;EGYPTIAN HIiOGLYPH L007;2L008;2M001;2M001A;2M001B;2M002;2M003;2M003A;2M004;2M005;2M006;2M007
131B7;EGYPTIAN HIiOGLYPH M008;2M009;2M010;2M010A;2M011;2M012;2M012A;2M012B;2M012C;2M012D;2M012E
131C2;EGYPTIAN HIiOGLYPH M012F;2M012G;2M012H;2M013;2M014;2M015;2M015A;2M016;2M016A;2M017;2M017A
131CD;EGYPTIAN HIiOGLYPH M018;2M019;2M020;2M021;2M022;2M022A;2M023;2M024;2M024A;2M025;2M026;2M027
131D9;EGYPTIAN HIiOGLYPH M028;2M028A;2M029;2M030;2M031;2M031A;2M032;2M033;2M033A;2M033B;2M034
131E4;EGYPTIAN HIiOGLYPH M035;2M036;2M037;2M038;2M039;2M040;2M040A;2M041;2M042;2M043;2M044;2N001
131F0;EGYPTIAN HIiOGLYPH N002;2N003;2N004;2N005;2N006;2N007;2N008;2N009;2N010;2N011;2N012;2N013
131FC;EGYPTIAN HIiOGLYPH N014;2N015;2N016;2N017;2N018;2N018A;2N018B;2N019;2N020;2N021;2N022;2N023
13208;EGYPTIAN HIiOGLYPH N024;2N025;2N025A;2N026;2N027;2N028;2N029;2N030;2N031;2N032;2N033;2N033A
13214;EGYPTIAN HIiOGLYPH N034;2N034A;2N035;2N035A;2N036;2N037;2N037A;2N038;2N039;2N040;2N041;2N042
13220;EGYPTIAN HIiOGLYPH NL001;2NL002;2NL003;2NL004;2NL005;2NL005A;2NL006;2NL007;2NL008;2NL009
1322A;EGYPTIAN HIiOGLYPH NL010;2NL011;2NL012;2NL013;2NL014;2NL015;2NL016;2NL017;2NL017A;2NL018
13234;EGYPTIAN HIiOGLYPH NL019;2NL020;2NU001;2NU002;2NU003;2NU004;2NU005;2NU006;2NU007;2NU008
1323E;EGYPTIAN HIiOGLYPH NU009;2NU010;2NU010A;2NU011;2NU011A;2NU012;2NU013;2NU014;2NU015;2NU016
13248;EGYPTIAN HIiOGLYPH NU017;2NU018;2NU018A;2NU019;2NU020;2NU021;2NU022;2NU022A;2O001;2O001A
13252;EGYPTIAN HIiOGLYPH O002;2O003;2O004;2O005;2O005A;2O006;2O006A;2O006B;2O006C;2O006D;2O006E
1325D;EGYPTIAN HIiOGLYPH O006F;2O007;2O008;2O009;2O010;2O010A;2O010B;2O010C;2O011;2O012;2O013
13268;EGYPTIAN HIiOGLYPH O014;2O015;2O016;2O017;2O018;2O019;2O019A;2O020;2O020A;2O021;2O022;2O023
13274;EGYPTIAN HIiOGLYPH O024;2O024A;2O025;2O025A;2O026;2O027;2O028;2O029;2O029A;2O030;2O030A
1327F;EGYPTIAN HIiOGLYPH O031;2O032;2O033;2O033A;2O034;2O035;2O036;2O036A;2O036B;2O036C;2O036D
1328A;EGYPTIAN HIiOGLYPH O037;2O038;2O039;2O040;2O041;2O042;2O043;2O044;2O045;2O046;2O047;2O048
13296;EGYPTIAN HIiOGLYPH O049;2O050;2O050A;2O050B;2O051;2P001;2P001A;2P002;2P003;2P003A;2P004
132A1;EGYPTIAN HIiOGLYPH P005;2P006;2P007;2P008;2P009;2P010;2P011;2Q001;2Q002;2Q003;2Q004;2Q005
132AD;EGYPTIAN HIiOGLYPH Q006;2Q007;2R001;2R002;2R002A;2R003;2R003A;2R003B;2R004;2R005;2R006;2R007
132B9;EGYPTIAN HIiOGLYPH R008;2R009;2R010;2R010A;2R011;2R012;2R013;2R014;2R015;2R016;2R016A;2R017
132C5;EGYPTIAN HIiOGLYPH R018;2R019;2R020;2R021;2R022;2R023;2R024;2R025;2R026;2R027;2R028;2R029
132D1;EGYPTIAN HIiOGLYPH S001;2S002;2S002A;2S003;2S004;2S005;2S006;2S006A;2S007;2S008;2S009;2S010
132DD;EGYPTIAN HIiOGLYPH S011;2S012;2S013;2S014;2S014A;2S014B;2S015;2S016;2S017;2S017A;2S018;2S019
132E9;EGYPTIAN HIiOGLYPH S020;2S021;2S022;2S023;2S024;2S025;2S026;2S026A;2S026B;2S027;2S028;2S029
132F5;EGYPTIAN HIiOGLYPH S030;2S031;2S032;2S033;2S034;2S035;2S035A;2S036;2S037;2S038;2S039;2S040
13301;EGYPTIAN HIiOGLYPH S041;2S042;2S043;2S044;2S045;2S046;2T001;2T002;2T003;2T003A;2T004;2T005
1330D;EGYPTIAN HIiOGLYPH T006;2T007;2T007A;2T008;2T008A;2T009;2T009A;2T010;2T011;2T011A;2T012
13318;EGYPTIAN HIiOGLYPH T013;2T014;2T015;2T016;2T016A;2T017;2T018;2T019;2T020;2T021;2T022;2T023
13324;EGYPTIAN HIiOGLYPH T024;2T025;2T026;2T027;2T028;2T029;2T030;2T031;2T032;2T032A;2T033;2T033A
13330;EGYPTIAN HIiOGLYPH T034;2T035;2T036;2U001;2U002;2U003;2U004;2U005;2U006;2U006A;2U006B;2U007
1333C;EGYPTIAN HIiOGLYPH U008;2U009;2U010;2U011;2U012;2U013;2U014;2U015;2U016;2U017;2U018;2U019
13348;EGYPTIAN HIiOGLYPH U020;2U021;2U022;2U023;2U023A;2U024;2U025;2U026;2U027;2U028;2U029;2U029A
13354;EGYPTIAN HIiOGLYPH U030;2U031;2U032;2U032A;2U033;2U034;2U035;2U036;2U037;2U038;2U039;2U040
13360;EGYPTIAN HIiOGLYPH U041;2U042;2V001;2V001A;2V001B;2V001C;2V001D;2V001E;2V001F;2V001G;2V001H
1336B;EGYPTIAN HIiOGLYPH V001I;2V002;2V002A;2V003;2V004;2V005;2V006;2V007;2V007A;2V007B;2V008
13376;EGYPTIAN HIiOGLYPH V009;2V010;2V011;2V011A;2V011B;2V011C;2V012;2V012A;2V012B;2V013;2V014
13381;EGYPTIAN HIiOGLYPH V015;2V016;2V017;2V018;2V019;2V020;2V020A;2V020B;2V020C;2V020D;2V020E
1338C;EGYPTIAN HIiOGLYPH V020F;2V020G;2V020H;2V020I;2V020J;2V020K;2V020L;2V021;2V022;2V023;2V023A
13397;EGYPTIAN HIiOGLYPH V024;2V025;2V026;2V027;2V028;2V028A;2V029;2V029A;2V030;2V030A;2V031
133A2;EGYPTIAN HIiOGLYPH V031A;2V032;2V033;2V033A;2V034;2V035;2V036;2V037;2V037A;2V038;2V039;2V040
133AE;EGYPTIAN HIiOGLYPH V040A;2W001;2W002;2W003;2W003A;2W004;2W005;2W006;2W007;2W008;2W009;2W009A
133BA;EGYPTIAN HIiOGLYPH W010;2W010A;2W011;2W012;2W013;2W014;2W014A;2W015;2W016;2W017;2W017A;2W018
133C6;EGYPTIAN HIiOGLYPH W018A;2W019;2W020;2W021;2W022;2W023;2W024;2W024A;2W025;2X001;2X002;2X003
133D2;EGYPTIAN HIiOGLYPH X004;2X004A;2X004B;2X005;2X006;2X006A;2X007;2X008;2X008A;2Y001;2Y001A
133DD;EGYPTIAN HIiOGLYPH Y002;2Y003;2Y004;2Y005;2Y006;2Y007;2Y008;2Z001;2Z002;2Z002A;2Z002B;2Z002C
133E9;EGYPTIAN HIiOGLYPH Z002D;2Z003;2Z003A;2Z003B;2Z004;2Z004A;2Z005;2Z005A;2Z006;2Z007;2Z008
133F4;EGYPTIAN HIiOGLYPH Z009;2Z010;2Z011;2Z012;2Z013;2Z014;2Z015;2Z015A;2Z015B;2Z015C;2Z015D
133FF;EGYPTIAN HIiOGLYPH Z015E;2Z015F;2Z015G;2Z015H;2Z015I;2Z016;2Z016A;2Z016B;2Z016C;2Z016D
13409;EGYPTIAN HIiOGLYPH Z016E;2Z016F;2Z016G;2Z016H;2AA001;2AA002;2AA003;2AA004;2AA005;2AA006
13413;EGYPTIAN HIiOGLYPH AA007;2AA007A;2AA007B;2AA008;2AA009;2AA010;2AA011;2AA012;2AA013;2AA014
1341D;EGYPTIAN HIiOGLYPH AA015;2AA016;2AA017;2AA018;2AA019;2AA020;2AA021;2AA022;2AA023;2AA024
13427;EGYPTIAN HIiOGLYPH AA025;2AA026;2AA027;2AA028;2AA029;2AA030;2AA031;2AA032
13430;EGYPTIAN HIiOGLYPH ViTICAL JOgi;2t JOgi;2gSiT AT TOP START;4BOTTOM START;4TOP END
13435;EGYPTIAN HIiOGLYPH gSiT AT BOTTOM END;2OViLAY MIDDLE;2BEGg SEGMENT;2END SEGMENT
14400;ANATOLIAN HIiOGLYPH A001;2A002;2A003;2A004;2A005;2A006;2A007;2A008;2A009;2A010;2A010A;2A011
1440C;ANATOLIAN HIiOGLYPH A012;2A013;2A014;2A015;2A016;2A017;2A018;2A019;2A020;2A021;2A022;2A023
14418;ANATOLIAN HIiOGLYPH A024;2A025;2A026;2A026A;2A027;2A028;2A029;2A030;2A031;2A032;2A033;2A034
14424;ANATOLIAN HIiOGLYPH A035;2A036;2A037;2A038;2A039;2A039A;2A040;2A041;2A041A;2A042;2A043;2A044
14430;ANATOLIAN HIiOGLYPH A045;2A045A;2A046;2A046A;2A046B;2A047;2A048;2A049;2A050;2A051;2A052
1443B;ANATOLIAN HIiOGLYPH A053;2A054;2A055;2A056;2A057;2A058;2A059;2A060;2A061;2A062;2A063;2A064
14447;ANATOLIAN HIiOGLYPH A065;2A066;2A066A;2A066B;2A066C;2A067;2A068;2A069;2A070;2A071;2A072
14452;ANATOLIAN HIiOGLYPH A073;2A074;2A075;2A076;2A077;2A078;2A079;2A080;2A081;2A082;2A083;2A084
1445E;ANATOLIAN HIiOGLYPH A085;2A086;2A087;2A088;2A089;2A090;2A091;2A092;2A093;2A094;2A095;2A096
1446A;ANATOLIAN HIiOGLYPH A097;2A097A;2A098;2A098A;2A099;2A100;2A100A;2A101;2A101A;2A102;2A102A
14475;ANATOLIAN HIiOGLYPH A103;2A104;2A104A;2A104B;2A104C;2A105;2A105A;2A105B;2A106;2A107;2A107A
14480;ANATOLIAN HIiOGLYPH A107B;2A107C;2A108;2A109;2A110;2A110A;2A110B;2A111;2A112;2A113;2A114
1448B;ANATOLIAN HIiOGLYPH A115;2A115A;2A116;2A117;2A118;2A119;2A120;2A121;2A122;2A123;2A124;2A125
14497;ANATOLIAN HIiOGLYPH A125A;2A126;2A127;2A128;2A129;2A130;2A131;2A132;2A133;2A134;2A135;2A135A
144A3;ANATOLIAN HIiOGLYPH A136;2A137;2A138;2A139;2A140;2A141;2A142;2A143;2A144;2A145;2A146;2A147
144AF;ANATOLIAN HIiOGLYPH A148;2A149;2A150;2A151;2A152;2A153;2A154;2A155;2A156;2A157;2A158;2A159
144BB;ANATOLIAN HIiOGLYPH A160;2A161;2A162;2A163;2A164;2A165;2A166;2A167;2A168;2A169;2A170;2A171
144C7;ANATOLIAN HIiOGLYPH A172;2A173;2A174;2A175;2A176;2A177;2A178;2A179;2A180;2A181;2A182;2A183
144D3;ANATOLIAN HIiOGLYPH A184;2A185;2A186;2A187;2A188;2A189;2A190;2A191;2A192;2A193;2A194;2A195
144DF;ANATOLIAN HIiOGLYPH A196;2A197;2A198;2A199;2A200;2A201;2A202;2A202A;2A202B;2A203;2A204;2A205
144EB;ANATOLIAN HIiOGLYPH A206;2A207;2A207A;2A208;2A209;2A209A;2A210;2A211;2A212;2A213;2A214;2A215
144F7;ANATOLIAN HIiOGLYPH A215A;2A216;2A216A;2A217;2A218;2A219;2A220;2A221;2A222;2A223;2A224;2A225
14503;ANATOLIAN HIiOGLYPH A226;2A227;2A227A;2A228;2A229;2A230;2A231;2A232;2A233;2A234;2A235;2A236
1450F;ANATOLIAN HIiOGLYPH A237;2A238;2A239;2A240;2A241;2A242;2A243;2A244;2A245;2A246;2A247;2A248
1451B;ANATOLIAN HIiOGLYPH A249;2A250;2A251;2A252;2A253;2A254;2A255;2A256;2A257;2A258;2A259;2A260
14527;ANATOLIAN HIiOGLYPH A261;2A262;2A263;2A264;2A265;2A266;2A267;2A267A;2A268;2A269;2A270;2A271
14533;ANATOLIAN HIiOGLYPH A272;2A273;2A274;2A275;2A276;2A277;2A278;2A279;2A280;2A281;2A282;2A283
1453F;ANATOLIAN HIiOGLYPH A284;2A285;2A286;2A287;2A288;2A289;2A289A;2A290;2A291;2A292;2A293;2A294
1454B;ANATOLIAN HIiOGLYPH A294A;2A295;2A296;2A297;2A298;2A299;2A299A;2A300;2A301;2A302;2A303;2A304
14557;ANATOLIAN HIiOGLYPH A305;2A306;2A307;2A308;2A309;2A309A;2A310;2A311;2A312;2A313;2A314;2A315
14563;ANATOLIAN HIiOGLYPH A316;2A317;2A318;2A319;2A320;2A321;2A322;2A323;2A324;2A325;2A326;2A327
1456F;ANATOLIAN HIiOGLYPH A328;2A329;2A329A;2A330;2A331;2A332A;2A332B;2A332C;2A333;2A334;2A335
1457A;ANATOLIAN HIiOGLYPH A336;2A336A;2A336B;2A336C;2A337;2A338;2A339;2A340;2A341;2A342;2A343
14585;ANATOLIAN HIiOGLYPH A344;2A345;2A346;2A347;2A348;2A349;2A350;2A351;2A352;2A353;2A354;2A355
14591;ANATOLIAN HIiOGLYPH A356;2A357;2A358;2A359;2A359A;2A360;2A361;2A362;2A363;2A364;2A364A;2A365
1459D;ANATOLIAN HIiOGLYPH A366;2A367;2A368;2A368A;2A369;2A370;2A371;2A371A;2A372;2A373;2A374;2A375
145A9;ANATOLIAN HIiOGLYPH A376;2A377;2A378;2A379;2A380;2A381;2A381A;2A382;2A383 RA OR RI;2A383A
145B3;ANATOLIAN HIiOGLYPH A384;2A385;2A386;2A386A;2A387;2A388;2A389;2A390;2A391;2A392;2A393 Ef
145BE;ANATOLIAN HIiOGLYPH A394;2A395;2A396;2A397;2A398;2A399;2A400;2A401;2A402;2A403;2A404;2A405
145CA;ANATOLIAN HIiOGLYPH A406;2A407;2A408;2A409;2A410 BEGg LOGOGRAM MARK;2A410A END LOGOGRAM MARK
145D0;ANATOLIAN HIiOGLYPH A411;2A412;2A413;2A414;2A415;2A416;2A417;2A418;2A419;2A420;2A421;2A422
145DC;ANATOLIAN HIiOGLYPH A423;2A424;2A425;2A426;2A427;2A428;2A429;2A430;2A431;2A432;2A433;2A434
145E8;ANATOLIAN HIiOGLYPH A435;2A436;2A437;2A438;2A439;2A440;2A441;2A442;2A443;2A444;2A445;2A446
145F4;ANATOLIAN HIiOGLYPH A447;2A448;2A449;2A450;2A450A;2A451;2A452;2A453;2A454;2A455;2A456;2A457
14600;ANATOLIAN HIiOGLYPH A457A;2A458;2A459;2A460;2A461;2A462;2A463;2A464;2A465;2A466;2A467;2A468
1460C;ANATOLIAN HIiOGLYPH A469;2A470;2A471;2A472;2A473;2A474;2A475;2A476;2A477;2A478;2A479;2A480
14618;ANATOLIAN HIiOGLYPH A481;2A482;2A483;2A484;2A485;2A486;2A487;2A488;2A489;2A490;2A491;2A492
14624;ANATOLIAN HIiOGLYPH A493;2A494;2A495;2A496;2A497;2A501;2A502;2A503;2A504;2A505;2A506;2A507
14630;ANATOLIAN HIiOGLYPH A508;2A509;2A510;2A511;2A512;2A513;2A514;2A515;2A516;2A517;2A518;2A519
1463C;ANATOLIAN HIiOGLYPH A520;2A521;2A522;2A523;2A524;2A525;2A526;2A527;2A528;2A529;2A530
16800;BAMUM a PHASE-A NGKUE MFON;3GBIEE FON;3PON MFON PIPAEMGBIEE;5PIPAEMBA;3NAA MFON;3SHUENSHUET
16806;BAMUM a PHASE-A TITA MFON;3NZA MFON;3SHgDA PA NJI;3PON PA NJI PIPAEMGBIEE;6PIPAEMBA
1680B;BAMUM a PHASE-A MAEMBGBIEE;3TU MAEMBA;3NGANGU;3MAEMVEUX;3MANSUAE;3MVEUAENGAM;3SEUNYAM
16812;BAMUM a PHASE-A NTOQPEN;3KEUKEUTNDA;3NKgDI;3SUU;3NGKUENZEUM;3LAPAQ;3LET KUT;3NTAP MFAA
1681A;BAMUM a PHASE-A MAEKEUP;3PASHAE;3GHEUAiAE;3PAMSHAE;3MON NGGEUAET;3NZUN MEUT;3U YUQ NAE
16821;BAMUM a PHASE-A GHEUAEGHEUAE;3NTAP NTAA;3SISA;3MGBASA;3MEUNJOMNDEUQ;3MOOMPUQ;3KAFA
16828;BAMUM a PHASE-A PA LEiAEWA;3NDA LEiAEWA;3PET;3MAEMKPEN;3NIKA;3PUP;3TUAEP;3LUAEP;3SONJAM
16831;BAMUM a PHASE-A TEUTEUWEN;3MAENYI;3KET;3NDAANGGEUAET;3KUOQ;3MOOMEUT;3SHUM;3LOMMAE;3FIRI;3ROM
1683B;BAMUM a PHASE-A KPOQ;3SOQ;3MAP PIEET;3SHIRAE;3NTAP;3SHOQ NSHUT YUM;3NYIT MONGKEUAEQ;3PAARAE
16843;BAMUM a PHASE-A NKAARAE;3UNKNOWN;3NGGEN;3MAESI;3NJAM;3MBANYI;3NYET;3TEUAEN;3SOT;3PAAM
1684D;BAMUM a PHASE-A NSHIEE;3MAEM;3NYI;3KAQ;3NSHA;3VEE;3LU;3NEN;3NAQ;3MBAQ;2PHASE-B NSHUET
16858;BAMUM a PHASE-B TU MAEMGBIEE;3SIEE;3SET TU;3LOM NTEUM;3MBA MAELEE;3KIEEM;3YEURAE;3MBAARAE
16860;BAMUM a PHASE-B KAM;3PEESHI;3YAFU LEiAEWA;3LAM NSHUT NYAM;3NTIEE SHEUOQ;3NDU NJAA
16866;BAMUM a PHASE-B GHEUGHEUAEM;3PIT;3TU NSIEE;3SHET NJAQ;3SHEUAEQTU;3MFON TEUAEQ;3MBIT MBAAKET
1686D;BAMUM a PHASE-B NYI NTEUM;3KEUPUQ;3GHEUGHEN;3KEUYEUX;3LAANAE;3PARUM;3VEUM;3NGKgDI MVOP
16875;BAMUM a PHASE-B NGGEU MBU;3WUAET;3SAKEUAE;3TAAM;3MEUQ;3NGGUOQ;4LARGE;3MFIYAQ;3SUE;3MBEURI
1687F;BAMUM a PHASE-B MONTIEEN;3NYAEMAE;3PUNGAAM;3MEUT NGGEET;3FEUX;3MBUOQ;3FEE;3KEUAEM
16887;BAMUM a PHASE-B MA NJEUAENA;4NJUQA;3LET;3NGGAAM;3NSEN;3MA;3KIQ;3NGOM;2PHASE-C NGKUE MAEMBA
16890;BAMUM a PHASE-C NZA;3YUM;3WANGKUOQ;3NGGEN;3NDEUAiEE;3NGKAQ;3GHARAE;3MBEEKEET;3GBAYI
16899;BAMUM a PHASE-C NYIR MKPARAQ MEUN;3NTU MBIT;3MBEUM;3PIRIEEN;3NDOMBU;3MBAA CABBAGE-TREE
1689F;BAMUM a PHASE-C KEUSHEUAEP;3GHAP;3KEUKAQ;3YU MUOMAE;3NZEUM;3MBUE;3NSEUAEN;3MBIT;3YEUQ
168A8;BAMUM a PHASE-C KPARAQ;3KAA;3SEUX;3NDIDA;3TAASHAE;3NJUEQ;3TITA YUE;3SUAET;3NGGUAEN NYAM
168B1;BAMUM a PHASE-C VEUX;3NANSANAQ;3MA KEUAiI;3NTAA;3NGGUON;3LAP;3MBIRIEEN;3MGBASAQ;3NTEUNGBA
168BA;BAMUM a PHASE-C TEUTEUX;3NGGUM;3FUE;3NDEUT;3NSA;3NSHAQ;3BUNG;3VEUAEPEN;3MBiAE;3RU;3NJAEM
168C5;BAMUM a PHASE-C LAM;3TITUAEP;3NSUOT NGOM;3NJEEEE;3KET;3NGGU;3MAESI;3MBUAEM;3LU;3KUT;3NJAM
168D0;BAMUM a PHASE-C NGOM;3WUP;3NGGUEET;3NSOM;3NTEN;3KUOP NKAARAE;3NSUN;3NDAM;3MA NSIEE;3YAA
168DA;BAMUM a PHASE-C NDAP;3SHUEQ;3SETFON;3MBI;3MAEMBA;3MBANYI;3KEUSEUX;3MBEUX;3KEUM;3MBAA PICKET
168E4;BAMUM a PHASE-C YUWOQ;3NJEUX;3MIEE;3MUAE;3SHIQ;3KEN LAW;4FATIGUE;3NGAQ;3NAQ;3LIQ;3Pg;3PEN
168F0;BAMUM a PHASE-C TET;2PHASE-D MBUO;3WAP;3NJI;3MFON;3NJIEE;3LIEE;3NJEUT;3NSHEE;3NGGAAMAE;3NYAM
168FB;BAMUM a PHASE-D WUAEN;3NGKUN;3SHEE;3NGKAP;3KEUAETMEUN;3TEUT;3SHEUAE;3NJAP;3SUE;3KET;3YAEMMAE
16906;BAMUM a PHASE-D KUOM;3SAP;3MFEUT;3NDEUX;3MALEiI;3MEUT;3SEUAEQ;3YEN;3NJEUAEM;3KEUOT MBUAE
16910;BAMUM a PHASE-D NGKEURI;3TU;3GHAA;3NGKYEE;3FEUFEUAET;3NDEE;3MGBOFUM;3LEUAEP;3NDON;3MONI
1691A;BAMUM a PHASE-D MGBEUN;3PUUT;3MGBIEE;3MFO;3LUM;3NSIEEP;3MBAA;3KWAET;3NYET;3TEUAEN;3SOT
16925;BAMUM a PHASE-D YUWOQ;3KEUM;3RAEM;3TEEEE;3NGKEUAEQ;3MFEUAE;3NSIEET;3KEUP;3PIP;3PEUTAE;3NYUE
16930;BAMUM a PHASE-D LET;3NGGAAM;3MFIEE;3NGGWAEN;3YUOM;3PAP;3YUOP;3NDAM;3NTEUM;3SUAE;3KUN;3NGGEUX
1693C;BAMUM a PHASE-D NGKIEE;3TUOT;3MEUN;3KUQ;3NSUM;3TEUN;3MAENJET;3NGGAP;3LEUM;3NGGUOM;3NSHUT
16947;BAMUM a PHASE-D NJUEQ;3GHEUAE;3KU;3REN OLD;3TAE;3TOQ;3NYI;3RII;3LEEEE;3MEEEE;3M;3SUU;3MU
16954;BAMUM a PHASE-D SHII;3SHEUX;3KYEE;3NU;3SHU;3NTEE;3PEE;3NI;3SHOQ;3PUQ;3MVOP;3LOQ;3REN MUCH
16961;BAMUM a PHASE-D TI;3NTUU;3MBAA SEVEN;3SAQ;3FAA;2PHASE-E NDAP;3TOON;3MBEUM;3LAP;3VOM;3LOON
1696C;BAMUM a PHASE-E PAA;3SOM;3RAQ;3NSHUOP;3NDUN;3PUAE;3TAM;3NGKA;3KPEUX;3WUO;3SEE;3NGGEUAET
16978;BAMUM a PHASE-E PAAM;3TOO;3KUOP;3LOM;3NSHIEE;3NGOP;3MAEM;3NGKEUX;3NGOQ;3NSHUE;3RIMGBA;3NJEUX
16984;BAMUM a PHASE-E PEEM;3SAA;3NGGURAE;3MGBA;3GHEUX;3NGKEUAEM;3NJAEMLI;3MAP;3LOOT;3NGGEEEE;3NDIQ
1698F;BAMUM a PHASE-E TAEN NTEUM;3SET;3PUM;3NDAA SOFTNESS;3NGGUAESHAE NYAM;3YIEE;3GHEUN;3TUAE
16997;BAMUM a PHASE-E YEUAE;3PO;3TUMAE;3KEUAE;3SUAEN;3TEUAEQ;3VEUAE;3WEUX;3LAAM;3PU;3TAAQ;3GHAAMAE
169A3;BAMUM a PHASE-E NGEUREUT;3SHEUAEQ;3MGBEN;3MBEE;3NZAQ;3NKOM;3GBET;3TUM;3KUET;3YAP;3NYI CLEAVi
169AE;BAMUM a PHASE-E YIT;3MFEUQ;3NDIAQ;3PIEEQ;3YUEQ;3LEUAEM;3FUE;3GBEUX;3NGKUP;3KET;3MAE;3NGKAAMI
169BA;BAMUM a PHASE-E GHET;3FA;3NTUM;3PEUT;3YEUM;3NGGEUAE;3NYI BETWEEN;3NZUQ;3POON;3MIEE;3FUET
169C5;BAMUM a PHASE-E NAE;3MUAE;3GHEUAE;3FU I;3MVI;3PUAQ;3NGKUM;3KUT;3PIET;3NTAP;3YEUAET;3NGGUP
169D1;BAMUM a PHASE-E PA PEOPLE;3FU CALL;3FOM;3NJEE;3A;3TOQ;3O;3I;3LAQ;3PA PLURAL;3TAA;3TAQ
169DD;BAMUM a PHASE-E NDAA MY HOUSE;3SHIQ;3YEUX;3NGUAE;3YUAEN;3YOQ SWIMMgG;4COVi;3YUQ;3YUN;3KEUX
169E7;BAMUM a PHASE-E PEUX;3NJEE EPOCH;3PUE;3WUE;3FEE;3VEE;3LU;3MI;3REUX;3RAE;3NGUAET;3NGA;3SHO
169F4;BAMUM a PHASE-E SHOQ;3FU REMmY;3NA;3PI;3LOQ;3KO;3MEN;3MA;3MAQ;3TEU;3KI;3MON;3TEN;3FAQ;3GHOM
16A03;BAMUM a PHASE-F KA;3U;3KU;3EE;3REE;3TAE;3NYI;3LA;3RII;3RIEE;3MEEEE;3TAA;3NDAA;3NJAEM;3M;3SUU
16A13;BAMUM a PHASE-F SHII;3SI;3SEUX;3KYEE;3KET;3NUAE;3NU;3NJUAE;3YOQ;3SHU;3YA;3NSHA;3PEUX;3NTEE
16A21;BAMUM a PHASE-F WUE;3PEE;3RU;3NI;3REUX;3KEN;3NGKWAEN;3NGGA;3SHO;3PUAE;3FOM;3WA;3LI;3LOQ;3KO
16A30;BAMUM a PHASE-F MBEN;3REN;3MA;3MO;3MBAA;3TET;3KPA;3SAMBA;3VUEQ
16A40;MRO a TA;2NGI;2YO;2MIM;2BA;2DA;2A;2PHI;2KHAI;2HAO;2DAI;2CHU;2KEAAE;2OL;2MAEM;2Ng;2PA;2OO;2O
16A53;MRO a RO;2SHI;2THEA;2EA;2WA;2E;2KO;2LAN;2LA;2HAI;2RI;2TEK
16A60;MRO DIGIT ZiO;2ONE;2TWO;2THREE;2FOUR;2FIVE;2SIX;2SEVEN;2Ef;2NgE
16A6E;MRO DlA;1r DlA;TANGSA a OZ;2OC;2OQ;2OX;2AZ;2AC;2AQ;2AX;2VZ;2VC;2VQ;2VX;2EZ;2EC;2EQ;2EX;2IZ
16A81;TANGSA a IC;2IQ;2IX;2UZ;2UC;2UQ;2UX;2AWZ;2AWC;2AWQ;2AWX;2UIZ;2UIC;2UIQ;2UIX;2FgAL NG
16A91;TANGSA a LONG UEX;2SHORT UEZ;3AWX;2UEC;2UEZ;2UEQ;2UEX;2UIUZ;2UIUC;2UIUQ;2UIUX;2MZ;2MC;2MQ
16A9F;TANGSA a MX;2KA;2KHA;2GA;2NGA;2SA;2YA;2WA;2PA;2NYA;2PHA;2BA;2MA;2NA;2HA;2LA;2HTA;2TA;2DA;2RA
16AB3;TANGSA a NHA;2SHA;2CA;2TSA;2GHA;2HTTA;2THA;2XA;2FA;2DHA;2CHA;2ZA
16AC0;TANGSA DIGIT ZiO;2ONE;2TWO;2THREE;2FOUR;2FIVE;2SIX;2SEVEN;2Ef;2NgE
16AD0;BASSA VAH a ENNI;3KA;3SE;3FA;3MBE;3YIE;3GAH;3DHII;3KPAH;3JO;3HWAH;3WA;3ZO;3GBU;3DO;3CE;3UWU
16AE1;BASSA VAH a TO;3BA;3VU;3YEg;3PA;3WADDA;3A;3O;3OO;3U;3EE;3E;3I
16AF0;BASSA VAH COMBggG HIGH TONE;3LOW TONE;3MID TONE;3LOW-MID TONE;3HIGH-LOW TONE;2FULL STOP
16B00;PAHAWH HMONG VOWEL KEEB;3KEEV;3KIB;3KIV;3KAUB;3KAUV;3KUB;3KUV;3KEB;3KEV;3KAIB;3KAIV;3KOOB
16B0D;PAHAWH HMONG VOWEL KOOV;3KAWB;3KAWV;3KUAB;3KUAV;3KOB;3KOV;3KIAB;3KIAV;3KAB;3KAV;3KWB;3KWV
16B1A;PAHAWH HMONG VOWEL KAAB;3KAAV;2CONSONANT VAU;3NTSAU;3LAU;3HAU;3NLAU;3RAU;3NKAU;3QHAU;3YAU
16B25;PAHAWH HMONG CONSONANT HLAU;3MAU;3CHAU;3NCHAU;3HNAU;3PLHAU;3NTHAU;3NAU;3AU;3XAU;3CAU
16B30;PAHAWH HMONG MARK CIM TUB;4SO;4KES;4KHAV;4SUAM;4HOM;4TAUM;2n VOS THOM;4TSHAB CEEB;3CIM CHEEM
16B3A;PAHAWH HMONG n VOS THIAB;4FEEM;3XYEEM NTXIV;4RHO;4TOV;4FAIB;3VOS SEEV;3MEEJ SUAB;3VOS NRUA
16B43;PAHAWH HMONG n IB YAM;3XAUS;3CIM TSOV ROG
16B50;PAHAWH HMONG DIGIT ZiO;3ONE;3TWO;3THREE;3FOUR;3FIVE;3SIX;3SEVEN;3Ef;3NgE
16B5B;PAHAWH HMONG NUMBi TENS;3HUNDRmS;3TEN THOUSlS;3MILLIONS;3HUNDRm MILLIONS;3TEN BILLIONS
16B61;PAHAWH HMONG NUMBi TRILLIONS
16B63;PAHAWH HMONG n VOS LUB;3XYOO;3HLI;3THIRD-STAGE HLI;3ZWJ THAJ;3HNUB;3NQIG;3XIAB;3NTUJ;3AV
16B6D;PAHAWH HMONG n TXHEEJ CEEV;3MEEJ TSEEB;3TAU;3LOS;3MUS;3CIM HAIS LUS NTOG NTOG;4CUAM TSHOOJ
16B74;PAHAWH HMONG n CIM TXWV;5CHWV;4PUB DAWB;4NRES TOS
16B7D;PAHAWH HMONG CLAN n TSHEEJ;4YEEG;4LIS;4LAUJ;4XYOOJ;4KOO;4HAWJ;4MUAS;4THOJ;4TSAB;4PHAB;4KHAB
16B89;PAHAWH HMONG CLAN n HAM;4VAJ;4FAJ;4YAJ;4TSWB;4KWM;4VWJ
16E40;MmEFAIDRg d a M;3S;3V;3W;3ATIU;3Z;3KP;3P;3T;3G;3F;3I;3K;3A;3J;3E;3B;3C;3U;3YU;3L;3Q;3HP;3NY
16E58;MmEFAIDRg d a X;3D;3OE;3N;3R;3O;3AI;3Y;1e a M;3S;3V;3W;3ATIU;3Z;3KP;3P;3T;3G;3F;3I;3K;3A;3J
16E6F;MmEFAIDRg e a E;3B;3C;3U;3YU;3L;3Q;3HP;3NY;3X;3D;3OE;3N;3R;3O;3AI;3Y;1DIGIT ZiO;2ONE;2TWO
16E83;MmEFAIDRg DIGIT THREE;2FOUR;2FIVE;2SIX;2SEVEN;2Ef;2NgE;1NUMBi TEN;2ELEVEN;2TWELVE;2THIRTEEN
16E8E;MmEFAIDRg NUMBi FOURTEEN;2FIFTEEN;2SIXTEEN;2SEVENTEEN;2EfEEN;2NgETEEN;1DIGIT ONE ALTiNATE j
16E95;MmEFAIDRg DIGIT TWO ALTiNATE j;2THREE ALTiNATE j;1COMMA;1FULL STOP;1u AIVA;1EXCLAMAv OH
16F00;MIAO a PA;2BA;2YI PA;2PLA;2MA;2MHA;2ARCHAIC MA;2FA;2VA;2VFA;2TA;2DA;2YI TTA;3TA;2TTA;2DDA
16F10;MIAO a NA;2NHA;2YI NNA;2ARCHAIC NA;2NNA;2NNHA;2LA;2LYA;2LHA;2LHYA;2TLHA;2DLHA;2TLHYA;2DLHYA
16F1E;MIAO a KA;2GA;2YI KA;2QA;2QGA;2NGA;2NGHA;2ARCHAIC NGA;2HA;2XA;2GHA;2GHHA;2TSSA;2DZZA;2NYA
16F2D;MIAO a NYHA;2TSHA;2DZHA;2YI TSHA;3DZHA;2REjm TSHA;2SHA;2SSA;2ZHA;2ZSHA;2TSA;2DZA;2YI TSA;2SA
16F3B;MIAO a ZA;2ZSA;2ZZA;2ZZSA;2ARCHAIC ZZA;2ZZYA;2ZZSYA;2WA;2AH;2HHA;2BRI;2SYI;2DZYI;2TE;2TSE
16F4A;MIAO a RTE
16F4F;MIAO n CONSONANT MODIFIi BAR;1a NASALIZAv;1n ASPIRAv;2REjm VOICgG;3ASPIRAv;1VOWEL n A;3AA
16F56;MIAO VOWEL n AHH;3AN;3ANG;3O;3OO;3WO;3W;3E;3EN;3ENG;3OEY;3I;3IA;3IAN;3IANG;3IO;3IE;3II;3IU
16F69;MIAO VOWEL n gG;3U;3UA;3UAN;3UANG;3UU;3UEI;3UNG;3Y;3YI;3AE;3AEE;3iR;3ROUNDm iR;3i;3ROUNDm i
16F79;MIAO VOWEL n AI;3EI;3AU;3OU;3N;3NG;3UOG;3YUI;3OG;3Oi;3VW;3IG;3EA;3IONG;3UI
16F8F;MIAO TONE Rf;2TOP Rf;2q;2x;1a TONE-2;2TONE-3;2TONE-4;2TONE-5;2TONE-6;2TONE-7;2TONE-8
16F9A;MIAO a REjm TONE-1;3TONE-2;3TONE-4;3TONE-5;3TONE-6;3TONE-8
16FE0;TANGUT ITiAv MARK;NUSHU ITiAv MARK;OLD CHgESE HOOK MARK;2ITiAv MARK;KHITAN e SCRIPT FILLi
16FF0;VIETNAMESE ALTiNATE READgG MARK CA;4NHAY
18800;TANGUT b-001;1b-002;1b-003;1b-004;1b-005;1b-006;1b-007;1b-008;1b-009;1b-010;1b-011;1b-012
1880C;TANGUT b-013;1b-014;1b-015;1b-016;1b-017;1b-018;1b-019;1b-020;1b-021;1b-022;1b-023;1b-024
18818;TANGUT b-025;1b-026;1b-027;1b-028;1b-029;1b-030;1b-031;1b-032;1b-033;1b-034;1b-035;1b-036
18824;TANGUT b-037;1b-038;1b-039;1b-040;1b-041;1b-042;1b-043;1b-044;1b-045;1b-046;1b-047;1b-048
18830;TANGUT b-049;1b-050;1b-051;1b-052;1b-053;1b-054;1b-055;1b-056;1b-057;1b-058;1b-059;1b-060
1883C;TANGUT b-061;1b-062;1b-063;1b-064;1b-065;1b-066;1b-067;1b-068;1b-069;1b-070;1b-071;1b-072
18848;TANGUT b-073;1b-074;1b-075;1b-076;1b-077;1b-078;1b-079;1b-080;1b-081;1b-082;1b-083;1b-084
18854;TANGUT b-085;1b-086;1b-087;1b-088;1b-089;1b-090;1b-091;1b-092;1b-093;1b-094;1b-095;1b-096
18860;TANGUT b-097;1b-098;1b-099;1b-100;1b-101;1b-102;1b-103;1b-104;1b-105;1b-106;1b-107;1b-108
1886C;TANGUT b-109;1b-110;1b-111;1b-112;1b-113;1b-114;1b-115;1b-116;1b-117;1b-118;1b-119;1b-120
18878;TANGUT b-121;1b-122;1b-123;1b-124;1b-125;1b-126;1b-127;1b-128;1b-129;1b-130;1b-131;1b-132
18884;TANGUT b-133;1b-134;1b-135;1b-136;1b-137;1b-138;1b-139;1b-140;1b-141;1b-142;1b-143;1b-144
18890;TANGUT b-145;1b-146;1b-147;1b-148;1b-149;1b-150;1b-151;1b-152;1b-153;1b-154;1b-155;1b-156
1889C;TANGUT b-157;1b-158;1b-159;1b-160;1b-161;1b-162;1b-163;1b-164;1b-165;1b-166;1b-167;1b-168
188A8;TANGUT b-169;1b-170;1b-171;1b-172;1b-173;1b-174;1b-175;1b-176;1b-177;1b-178;1b-179;1b-180
188B4;TANGUT b-181;1b-182;1b-183;1b-184;1b-185;1b-186;1b-187;1b-188;1b-189;1b-190;1b-191;1b-192
188C0;TANGUT b-193;1b-194;1b-195;1b-196;1b-197;1b-198;1b-199;1b-200;1b-201;1b-202;1b-203;1b-204
188CC;TANGUT b-205;1b-206;1b-207;1b-208;1b-209;1b-210;1b-211;1b-212;1b-213;1b-214;1b-215;1b-216
188D8;TANGUT b-217;1b-218;1b-219;1b-220;1b-221;1b-222;1b-223;1b-224;1b-225;1b-226;1b-227;1b-228
188E4;TANGUT b-229;1b-230;1b-231;1b-232;1b-233;1b-234;1b-235;1b-236;1b-237;1b-238;1b-239;1b-240
188F0;TANGUT b-241;1b-242;1b-243;1b-244;1b-245;1b-246;1b-247;1b-248;1b-249;1b-250;1b-251;1b-252
188FC;TANGUT b-253;1b-254;1b-255;1b-256;1b-257;1b-258;1b-259;1b-260;1b-261;1b-262;1b-263;1b-264
18908;TANGUT b-265;1b-266;1b-267;1b-268;1b-269;1b-270;1b-271;1b-272;1b-273;1b-274;1b-275;1b-276
18914;TANGUT b-277;1b-278;1b-279;1b-280;1b-281;1b-282;1b-283;1b-284;1b-285;1b-286;1b-287;1b-288
18920;TANGUT b-289;1b-290;1b-291;1b-292;1b-293;1b-294;1b-295;1b-296;1b-297;1b-298;1b-299;1b-300
1892C;TANGUT b-301;1b-302;1b-303;1b-304;1b-305;1b-306;1b-307;1b-308;1b-309;1b-310;1b-311;1b-312
18938;TANGUT b-313;1b-314;1b-315;1b-316;1b-317;1b-318;1b-319;1b-320;1b-321;1b-322;1b-323;1b-324
18944;TANGUT b-325;1b-326;1b-327;1b-328;1b-329;1b-330;1b-331;1b-332;1b-333;1b-334;1b-335;1b-336
18950;TANGUT b-337;1b-338;1b-339;1b-340;1b-341;1b-342;1b-343;1b-344;1b-345;1b-346;1b-347;1b-348
1895C;TANGUT b-349;1b-350;1b-351;1b-352;1b-353;1b-354;1b-355;1b-356;1b-357;1b-358;1b-359;1b-360
18968;TANGUT b-361;1b-362;1b-363;1b-364;1b-365;1b-366;1b-367;1b-368;1b-369;1b-370;1b-371;1b-372
18974;TANGUT b-373;1b-374;1b-375;1b-376;1b-377;1b-378;1b-379;1b-380;1b-381;1b-382;1b-383;1b-384
18980;TANGUT b-385;1b-386;1b-387;1b-388;1b-389;1b-390;1b-391;1b-392;1b-393;1b-394;1b-395;1b-396
1898C;TANGUT b-397;1b-398;1b-399;1b-400;1b-401;1b-402;1b-403;1b-404;1b-405;1b-406;1b-407;1b-408
18998;TANGUT b-409;1b-410;1b-411;1b-412;1b-413;1b-414;1b-415;1b-416;1b-417;1b-418;1b-419;1b-420
189A4;TANGUT b-421;1b-422;1b-423;1b-424;1b-425;1b-426;1b-427;1b-428;1b-429;1b-430;1b-431;1b-432
189B0;TANGUT b-433;1b-434;1b-435;1b-436;1b-437;1b-438;1b-439;1b-440;1b-441;1b-442;1b-443;1b-444
189BC;TANGUT b-445;1b-446;1b-447;1b-448;1b-449;1b-450;1b-451;1b-452;1b-453;1b-454;1b-455;1b-456
189C8;TANGUT b-457;1b-458;1b-459;1b-460;1b-461;1b-462;1b-463;1b-464;1b-465;1b-466;1b-467;1b-468
189D4;TANGUT b-469;1b-470;1b-471;1b-472;1b-473;1b-474;1b-475;1b-476;1b-477;1b-478;1b-479;1b-480
189E0;TANGUT b-481;1b-482;1b-483;1b-484;1b-485;1b-486;1b-487;1b-488;1b-489;1b-490;1b-491;1b-492
189EC;TANGUT b-493;1b-494;1b-495;1b-496;1b-497;1b-498;1b-499;1b-500;1b-501;1b-502;1b-503;1b-504
189F8;TANGUT b-505;1b-506;1b-507;1b-508;1b-509;1b-510;1b-511;1b-512;1b-513;1b-514;1b-515;1b-516
18A04;TANGUT b-517;1b-518;1b-519;1b-520;1b-521;1b-522;1b-523;1b-524;1b-525;1b-526;1b-527;1b-528
18A10;TANGUT b-529;1b-530;1b-531;1b-532;1b-533;1b-534;1b-535;1b-536;1b-537;1b-538;1b-539;1b-540
18A1C;TANGUT b-541;1b-542;1b-543;1b-544;1b-545;1b-546;1b-547;1b-548;1b-549;1b-550;1b-551;1b-552
18A28;TANGUT b-553;1b-554;1b-555;1b-556;1b-557;1b-558;1b-559;1b-560;1b-561;1b-562;1b-563;1b-564
18A34;TANGUT b-565;1b-566;1b-567;1b-568;1b-569;1b-570;1b-571;1b-572;1b-573;1b-574;1b-575;1b-576
18A40;TANGUT b-577;1b-578;1b-579;1b-580;1b-581;1b-582;1b-583;1b-584;1b-585;1b-586;1b-587;1b-588
18A4C;TANGUT b-589;1b-590;1b-591;1b-592;1b-593;1b-594;1b-595;1b-596;1b-597;1b-598;1b-599;1b-600
18A58;TANGUT b-601;1b-602;1b-603;1b-604;1b-605;1b-606;1b-607;1b-608;1b-609;1b-610;1b-611;1b-612
18A64;TANGUT b-613;1b-614;1b-615;1b-616;1b-617;1b-618;1b-619;1b-620;1b-621;1b-622;1b-623;1b-624
18A70;TANGUT b-625;1b-626;1b-627;1b-628;1b-629;1b-630;1b-631;1b-632;1b-633;1b-634;1b-635;1b-636
18A7C;TANGUT b-637;1b-638;1b-639;1b-640;1b-641;1b-642;1b-643;1b-644;1b-645;1b-646;1b-647;1b-648
18A88;TANGUT b-649;1b-650;1b-651;1b-652;1b-653;1b-654;1b-655;1b-656;1b-657;1b-658;1b-659;1b-660
18A94;TANGUT b-661;1b-662;1b-663;1b-664;1b-665;1b-666;1b-667;1b-668;1b-669;1b-670;1b-671;1b-672
18AA0;TANGUT b-673;1b-674;1b-675;1b-676;1b-677;1b-678;1b-679;1b-680;1b-681;1b-682;1b-683;1b-684
18AAC;TANGUT b-685;1b-686;1b-687;1b-688;1b-689;1b-690;1b-691;1b-692;1b-693;1b-694;1b-695;1b-696
18AB8;TANGUT b-697;1b-698;1b-699;1b-700;1b-701;1b-702;1b-703;1b-704;1b-705;1b-706;1b-707;1b-708
18AC4;TANGUT b-709;1b-710;1b-711;1b-712;1b-713;1b-714;1b-715;1b-716;1b-717;1b-718;1b-719;1b-720
18AD0;TANGUT b-721;1b-722;1b-723;1b-724;1b-725;1b-726;1b-727;1b-728;1b-729;1b-730;1b-731;1b-732
18ADC;TANGUT b-733;1b-734;1b-735;1b-736;1b-737;1b-738;1b-739;1b-740;1b-741;1b-742;1b-743;1b-744
18AE8;TANGUT b-745;1b-746;1b-747;1b-748;1b-749;1b-750;1b-751;1b-752;1b-753;1b-754;1b-755;1b-756
18AF4;TANGUT b-757;1b-758;1b-759;1b-760;1b-761;1b-762;1b-763;1b-764;1b-765;1b-766;1b-767;1b-768
1AFF0;KATAKANA a MgNAN TONE-2;3TONE-3;3TONE-4;3TONE-5
1AFF5;KATAKANA a MgNAN TONE-7;3TONE-8;3NASALIZm TONE-1;4TONE-2;4TONE-3;4TONE-4;4TONE-5
1AFFD;KATAKANA a MgNAN NASALIZm TONE-7;4TONE-8
1B000;KATAKANA a ARCHAIC E;HIRAGANA a ARCHAIC YE;HENTAIGANA a A-1;2A-2;2A-3;2A-WO;2I-1;2I-2;2I-3
1B009;HENTAIGANA a I-4;2U-1;2U-2;2U-3;2U-4;2U-5;2E-2;2E-3;2E-4;2E-5;2E-6;2O-1;2O-2;2O-3;2KA-1
1B018;HENTAIGANA a KA-2;2KA-3;2KA-4;2KA-5;2KA-6;2KA-7;2KA-8;2KA-9;2KA-10;2KA-11;2KA-KE;2KI-1;2KI-2
1B025;HENTAIGANA a KI-3;2KI-4;2KI-5;2KI-6;2KI-7;2KI-8;2KU-1;2KU-2;2KU-3;2KU-4;2KU-5;2KU-6;2KU-7
1B032;HENTAIGANA a KE-1;2KE-2;2KE-3;2KE-4;2KE-5;2KE-6;2KO-1;2KO-2;2KO-3;2KO-KI;2SA-1;2SA-2;2SA-3
1B03F;HENTAIGANA a SA-4;2SA-5;2SA-6;2SA-7;2SA-8;2SI-1;2SI-2;2SI-3;2SI-4;2SI-5;2SI-6;2SU-1;2SU-2
1B04C;HENTAIGANA a SU-3;2SU-4;2SU-5;2SU-6;2SU-7;2SU-8;2SE-1;2SE-2;2SE-3;2SE-4;2SE-5;2SO-1;2SO-2
1B059;HENTAIGANA a SO-3;2SO-4;2SO-5;2SO-6;2SO-7;2TA-1;2TA-2;2TA-3;2TA-4;2TI-1;2TI-2;2TI-3;2TI-4
1B066;HENTAIGANA a TI-5;2TI-6;2TI-7;2TU-1;2TU-2;2TU-3;2TU-4;2TU-TO;2TE-1;2TE-2;2TE-3;2TE-4;2TE-5
1B073;HENTAIGANA a TE-6;2TE-7;2TE-8;2TE-9;2TO-1;2TO-2;2TO-3;2TO-4;2TO-5;2TO-6;2TO-RA;2NA-1;2NA-2
1B080;HENTAIGANA a NA-3;2NA-4;2NA-5;2NA-6;2NA-7;2NA-8;2NA-9;2NI-1;2NI-2;2NI-3;2NI-4;2NI-5;2NI-6
1B08D;HENTAIGANA a NI-7;2NI-TE;2NU-1;2NU-2;2NU-3;2NE-1;2NE-2;2NE-3;2NE-4;2NE-5;2NE-6;2NE-KO;2NO-1
1B09A;HENTAIGANA a NO-2;2NO-3;2NO-4;2NO-5;2HA-1;2HA-2;2HA-3;2HA-4;2HA-5;2HA-6;2HA-7;2HA-8;2HA-9
1B0A7;HENTAIGANA a HA-10;2HA-11;2HI-1;2HI-2;2HI-3;2HI-4;2HI-5;2HI-6;2HI-7;2HU-1;2HU-2;2HU-3;2HE-1
1B0B4;HENTAIGANA a HE-2;2HE-3;2HE-4;2HE-5;2HE-6;2HE-7;2HO-1;2HO-2;2HO-3;2HO-4;2HO-5;2HO-6;2HO-7
1B0C1;HENTAIGANA a HO-8;2MA-1;2MA-2;2MA-3;2MA-4;2MA-5;2MA-6;2MA-7;2MI-1;2MI-2;2MI-3;2MI-4;2MI-5
1B0CE;HENTAIGANA a MI-6;2MI-7;2MU-1;2MU-2;2MU-3;2MU-4;2ME-1;2ME-2;2ME-MA;2MO-1;2MO-2;2MO-3;2MO-4
1B0DB;HENTAIGANA a MO-5;2MO-6;2YA-1;2YA-2;2YA-3;2YA-4;2YA-5;2YA-YO;2YU-1;2YU-2;2YU-3;2YU-4;2YO-1
1B0E8;HENTAIGANA a YO-2;2YO-3;2YO-4;2YO-5;2YO-6;2RA-1;2RA-2;2RA-3;2RA-4;2RI-1;2RI-2;2RI-3;2RI-4
1B0F5;HENTAIGANA a RI-5;2RI-6;2RI-7;2RU-1;2RU-2;2RU-3;2RU-4;2RU-5;2RU-6;2RE-1;2RE-2;2RE-3;2RE-4
1B102;HENTAIGANA a RO-1;2RO-2;2RO-3;2RO-4;2RO-5;2RO-6;2WA-1;2WA-2;2WA-3;2WA-4;2WA-5;2WI-1;2WI-2
1B10F;HENTAIGANA a WI-3;2WI-4;2WI-5;2WE-1;2WE-2;2WE-3;2WE-4;2WO-1;2WO-2;2WO-3;2WO-4;2WO-5;2WO-6
1B11C;HENTAIGANA a WO-7;2N-MU-MO-1;2N-MU-MO-2;HIRAGANA a ARCHAIC WU;KATAKANA a ARCHAIC YI;3YE;3WU
1B150;HIRAGANA a e WI;3WE;3WO
1B164;KATAKANA a e WI;3WE;3WO;3N
1BC00;DUPLOYAN a H;2X;2P;2T;2F;2K;2L;2B;2D;2V;2G;2R;2P N;2D S;2F N;2K M;2R S;2TH;2SLOAN DH;2DH;2KK
1BC15;DUPLOYAN a SLOAN J;2HL;2LH;2RH;2M;2N;2J;2S;2M N;2N M;2J M;2S J;2M c s;2N c s;2J c s
1BC24;DUPLOYAN a J c sS gSIDE l q;2S c s;5x;2M S;2N S;2J S;2S S;2M N S;2N M S;2J M S;2S J S
1BC2F;DUPLOYAN a J S c s;3N;4S;2S T;4R;3P;4R;2T S;3R S;2W;2WH;2W R;2S N;3M;2K R S;2G R S;2S K;4R
1BC41;DUPLOYAN a A;2SLOAN OW;2OA;2O;2AOU;2I;2E;2IE;2SHORT I;2UI;2EE;2SLOAN EH;2ROMANIAN I
1BC4E;DUPLOYAN a SLOAN EE;2LONG I;2YE;2U;2EU;2XW;2U N;2LONG U;2ROMANIAN U;2UH;2SLOAN U;2OOH;2OW
1BC5B;DUPLOYAN a OU;2WA;2WO;2WI;2WEI;2WOW;2NASAL U;3O;3I;3A;2PiNg AN;3AM;2SLOAN EN;3AN;3ON
1BC6A;DUPLOYAN a VOCALIC M
1BC70;DUPLOYAN AFFIX p t SECANT;2MID t SECANT;2Rf t SECANT;2LOW ViTICAL SECANT;2MID ViTICAL SECANT
1BC75;DUPLOYAN AFFIX HIGH ViTICAL SECANT;2ATTACHm SECANT;3p-TO-Rf SECANT;3TANGENT;3TAIL;3E HOOK
1BC7B;DUPLOYAN AFFIX ATTACHm I HOOK;3TANGENT HOOK
1BC80;DUPLOYAN AFFIX HIGH ACUTE;3Tf ACUTE;3GRAVE;3LONG GRAVE;3s;3CIRCLE;3LgE;3WAVE;3ViTICAL
1BC90;DUPLOYAN AFFIX LOW ACUTE;3Tf ACUTE;3GRAVE;3LONG GRAVE;3s;3CIRCLE;3LgE;3WAVE;3ViTICAL;3h
1BC9C;DUPLOYAN n O c CROSS;1THICK a o;1r MARK;1PUNCTUAv CHgOOK FULL STOP;SHORTHl jAT a OViLAP
1BCA1;SHORTHl jAT CONTgUgG OViLAP;2DOWN STEP;2UP STEP
1CF00;ZNAMENNY COMBggG MARK GORAZDO NIZKO S KRYZHEM ON p;3NIZKO S KRYZHEM ON p;3TSATA ON p
1CF03;ZNAMENNY COMBggG MARK GORAZDO NIZKO ON p;3NIZKO ON p;3SRmNE ON p;3MALO POVYSHE ON p
1CF07;ZNAMENNY COMBggG MARK POVYSHE ON p;3VYSOKO ON p;3MALO POVYSHE S KHOKHLOM ON p
1CF0A;ZNAMENNY COMBggG MARK POVYSHE S KHOKHLOM ON p;3VYSOKO S KHOKHLOM ON p
1CF0C;ZNAMENNY COMBggG MARK GORAZDO NIZKO S KRYZHEM ON Rf;3NIZKO S KRYZHEM ON Rf;3TSATA ON Rf
1CF0F;ZNAMENNY COMBggG MARK GORAZDO NIZKO ON Rf;3NIZKO ON Rf;3SRmNE ON Rf;3MALO POVYSHE ON Rf
1CF13;ZNAMENNY COMBggG MARK POVYSHE ON Rf;3VYSOKO ON Rf;3MALO POVYSHE S KHOKHLOM ON Rf
1CF16;ZNAMENNY COMBggG MARK POVYSHE S KHOKHLOM ON Rf;3VYSOKO S KHOKHLOM ON Rf;3TSATA S KRYZHEM
1CF19;ZNAMENNY COMBggG MARK MALO POVYSHE S KRYZHEM;3STRANNO MALO POVYSHE;3POVYSHE S KRYZHEM
1CF1C;ZNAMENNY COMBggG MARK POVYSHE STRANNO;3VYSOKO S KRYZHEM;3MALO POVYSHE STRANNO
1CF1F;ZNAMENNY COMBggG MARK GORAZDO VYSOKO;3ZELO;3ON;3RAVNO;3TIKHAYA;3BORZAYA;3UDARKA;3PODViTKA
1CF27;ZNAMENNY COMBggG MARK LOMKA;3KUPNAYA;3KACHKA;3ZEVOK;3SKOBA;3RAZSEKA;3KRYZH ON p
1CF30;ZNAMENNY COMBggG TONAL RANGE MARK MRACHNO;5SVETLO;5TRESVETLO;2MARK ZADiZHKA
1CF34;ZNAMENNY COMBggG MARK DEMESTVENNY ZADiZHKA;3OTSECHKA;3PODCHASHIE;4c ViTICAL y;3CHASHKA
1CF39;ZNAMENNY COMBggG MARK CHASHKA POLNAYA;3OBLACHKO;3SOROCHYA NOZHKA;3TOCHKA;3DVOETOCHIE
1CF3E;ZNAMENNY COMBggG ATTACHgG ViTICAL OMET;2MARK CURVm OMET;3KRYZH;2LOWi TONAL RANGE gDICATOR
1CF42;ZNAMENNY PRIZNAK MODIFIi LEVEL-2;3LEVEL-3;3DIRECv FLIP;3KRYZH;3ROG
1CF50;ZNAMENNY NEUME KRYUK;3TIKHY;2PARAKLIT;2DVA V CHELNU;2KLYUCH;2ZANOZHEK;2STOPITSA;3S OCHKOM
1CF58;ZNAMENNY NEUME PiEVODKA;3NEPOSTOYANNAYA;2STOPITSA c SOROCHYA NOZHKA;2CHELYUSTKA;2PALKA
1CF5D;ZNAMENNY NEUME ZAPYATAYA;2GOLUBCHIK BORZY;3TIKHY;3MRACHNY;3SVETLY;3TRESVETLY
1CF63;ZNAMENNY NEUME VRAKHIYA PROSTAYA;3MRACHNAYA;3SVETLAYA;3TRESVETLAYA;3KLYUCHEVAYA PROSTAYA
1CF68;ZNAMENNY NEUME VRAKHIYA KLYUCHEVAYA MRACHNAYA;4SVETLAYA;4TRESVETLAYA;2r ZAPYATAYA
1CF6C;ZNAMENNY NEUME REViSm CHELYUSTKA;2DiBITSA;2KHAMILO;2CHASHKA;2PODCHASHIE;2SKAMEYTSA MRACHNAYA
1CF72;ZNAMENNY NEUME SKAMEYTSA SVETLAYA;3TRESVETLAYA;3TIKHAYA;2DEMESTVENNY KLYUCH
1CF76;ZNAMENNY NEUME SKAMEYTSA KLYUCHEVAYA SVETLAYA;3KLYUCHENEPOSTOYANNAYA;3KLYUCHEVAYA TIKHAYA
1CF79;ZNAMENNY NEUME SKAMEYTSA DVOECHELNAYA PROSTAYA;4SVETLAYA;4NEPOSTOYANNAYA;4KLYUCHEVAYA
1CF7D;ZNAMENNY NEUME SLOZHITIE;3S ZAPYATOY;3ZAKRYTOE;3S KRYZHEM;2KRYZH;2ROG;2FITA;2KOBYLA;2ZMEYTSA
1CF86;ZNAMENNY NEUME STATYA;3S ZAPYATOY;4KRYZHEM;4ZAPYATOY I KRYZHEM;4KRYZHEM I ZAPYATOY
1CF8B;ZNAMENNY NEUME STATYA ZAKRYTAYA;4S ZAPYATOY;3S ROGOM;4DVUMYA ZAPYATYMI
1CF8F;ZNAMENNY NEUME STATYA S ZAPYATOY I PODCHASHIEM;2POLKULIZMY;2STATYA NEPOSTOYANNAYA
1CF92;ZNAMENNY NEUME STRELA PROSTAYA;3MRACHNOTIKHAYA;3KRYZHEVAYA;3POLUPOVODNAYA;3POVODNAYA
1CF97;ZNAMENNY NEUME STRELA NEPOSTOYANNAYA;3KLYUCHEPOVODNAYA;3KLYUCHENEPOSTOYANNAYA
1CF9A;ZNAMENNY NEUME STRELA TIKHAYA PUTNAYA;3DVOECHELNAYA;3DVOECHELNOKRYZHEVAYA
1CF9D;ZNAMENNY NEUME STRELA DVOECHELNOPOVODNAYA;3DVOECHELNAYA KLYUCHEVAYA
1CF9F;ZNAMENNY NEUME STRELA DVOECHELNOPOVODNAYA KLYUCHEVAYA;3GROMNAYA c SgGLE ZAPYATAYA
1CFA1;ZNAMENNY NEUME STRELA GROMOPOVODNAYA c SgGLE ZAPYATAYA;3GROMNAYA;3GROMOPOVODNAYA
1CFA4;ZNAMENNY NEUME STRELA GROMOPOVODNAYA c r ZAPYATAYA;3GROMOKRYZHEVAYA;4POVODNAYA;2MECHIK
1CFA8;ZNAMENNY NEUME MECHIK POVODNY;3KLYUCHEVOY;3KLYUCHEPOVODNY;3KLYUCHENEPOSTOYANNY
1CFAC;ZNAMENNY NEUME STRELA TRYASOGLASNAYA;3TRYASOPOVODNAYA;3TRYASOSTRELNAYA;2OSOKA;3SVETLAYA
1CFB1;ZNAMENNY NEUME OSOKA TRESVETLAYA;3KRYUKOVAYA SVETLAYA;3KLYUCHEVAYA SVETLAYA;4NEPOSTOYANNAYA
1CFB5;ZNAMENNY NEUME STRELA KRYUKOVAYA;4POVODNAYA;4GROMNAYA c SgGLE ZAPYATAYA
1CFB8;ZNAMENNY NEUME STRELA KRYUKOVAYA GROMOPOVODNAYA c SgGLE ZAPYATAYA;4GROMNAYA;4GROMOPOVODNAYA
1CFBB;ZNAMENNY NEUME STRELA KRYUKOVAYA GROMOPOVODNAYA c r ZAPYATAYA;4GROMOKRYZHEVAYA;5POVODNAYA
1CFBE;ZNAMENNY NEUME STRELA KRYUKOVAYA TRYASKA;2KUFISMA;2OBLAKO;2DUDA;2NEMKA;2PAUK
1D000;BYZANTgE MUSICAL u PSILI;3DASEIA;3PiISPOMENI;3OXEIA EKFONITIKON;4DIPLI;3VAREIA EKFONITIKON
1D006;BYZANTgE MUSICAL u VAREIA DIPLI;3KATHISTI;3SYRMATIKI;3PARAKLITIKI;3YPOKRISIS;4DIPLI
1D00C;BYZANTgE MUSICAL u KREMASTI;3APESO EKFONITIKON;3EXO EKFONITIKON;3TELEIA;3KENTIMATA
1D011;BYZANTgE MUSICAL u APOSTROFOS;4DIPLI;3SYNEVMA;3THITA;3OLIGON ARCHAION;3GORGON ARCHAION
1D017;BYZANTgE MUSICAL u PSILON;3CHAMILON;3VATHY;3ISON ARCHAION;3KENTIMA ARCHAION
1D01C;BYZANTgE MUSICAL u KENTIMATA ARCHAION;3SAXIMATA;3PARICHON;3STAVROS APODEXIA;3OXEIAI ARCHAION
1D021;BYZANTgE MUSICAL u VAREIAI ARCHAION;3APODiMA ARCHAION;3APOTHEMA;3KLASMA;3REVMA
1D026;BYZANTgE MUSICAL u PIASMA ARCHAION;3TgAGMA;3ANATRICHISMA;3SEISMA;3SYNAGMA ARCHAION
1D02B;BYZANTgE MUSICAL u SYNAGMA META STAVROU;3OYRANISMA ARCHAION;3THEMA;3LEMOI;3DYO;3TRIA;3TESSiA
1D032;BYZANTgE MUSICAL u KRATIMATA;3APESO EXO NEO;3FTHORA ARCHAION;3IMIFTHORA;3TROMIKON ARCHAION
1D037;BYZANTgE MUSICAL u KATAVA TROMIKON;3PELASTON;3PSIFISTON;3KONTEVMA;3CHOREVMA ARCHAION
1D03C;BYZANTgE MUSICAL u RAPISMA;3PARAKALESMA ARCHAION;3PARAKLITIKI ARCHAION;3ICHADg;3NANA
1D041;BYZANTgE MUSICAL u PETASMA;3KONTEVMA ALLO;3TROMIKON ALLO;3STRAGGISMATA;3GRONTHISMATA
1D046;BYZANTgE MUSICAL u ISON NEO;3OLIGON NEO;3OXEIA NEO;3PETASTI;3KOUFISMA;3PETASTOKOUFISMA
1D04C;BYZANTgE MUSICAL u KRATIMOKOUFISMA;3PELASTON NEO;3KENTIMATA NEO ANO;3KENTIMA NEO ANO;3YPSILI
1D051;BYZANTgE MUSICAL u APOSTROFOS NEO;3APOSTROFOI SYNDESMOS NEO;3YPORROI;3KRATIMOYPORROON
1D055;BYZANTgE MUSICAL u ELAFRON;3CHAMILI;3MIKRON ISON;3VAREIA NEO;3PIASMA NEO;3PSIFISTON NEO
1D05B;BYZANTgE MUSICAL u OMALON;3ANTIKENOMA;3LYGISMA;3PARAKLITIKI NEO;3PARAKALESMA NEO
1D060;BYZANTgE MUSICAL u ETiON PARAKALESMA;3KYLISMA;3ANTIKENOKYLISMA;3TROMIKON NEO;3EKSTREPTON
1D065;BYZANTgE MUSICAL u SYNAGMA NEO;3SYRMA;3CHOREVMA NEO;3EPEGiMA;3SEISMA NEO;3XIRON KLASMA
1D06B;BYZANTgE MUSICAL u TROMIKOPSIFISTON;3PSIFISTOLYGISMA;3TROMIKOLYGISMA;3TROMIKOPARAKALESMA
1D06F;BYZANTgE MUSICAL u PSIFISTOPARAKALESMA;3TROMIKOSYNAGMA;3PSIFISTOSYNAGMA;3GORGOSYNTHETON
1D073;BYZANTgE MUSICAL u ARGOSYNTHETON;3ETiON ARGOSYNTHETON;3OYRANISMA NEO;3THEMATISMOS ESO;4EXO
1D078;BYZANTgE MUSICAL u THEMA APLOUN;3THES KAI APOTHES;3KATAVASMA;3ENDOFONON;3YFEN KATO;4ANO
1D07E;BYZANTgE MUSICAL u STAVROS;3KLASMA ANO;3DIPLI ARCHAION;3KRATIMA ARCHAION;4ALLO;4NEO
1D084;BYZANTgE MUSICAL u APODiMA NEO;3APLI;3DIPLI;3TRIPLI;3TETRAPLI;3KORONIS;3LEIMMA ENOS CHRONOU
1D08B;BYZANTgE MUSICAL u LEIMMA DYO CHRONON;4TRION CHRONON;4TESSARON CHRONON;4IMISEOS CHRONOU
1D08F;BYZANTgE MUSICAL u GORGON NEO ANO;4PARESTIGMENON ARISTiA;5DEXIA;3DIGORGON
1D093;BYZANTgE MUSICAL u DIGORGON PARESTIGMENON ARISTiA KATO;6ANO;5DEXIA;3TRIGORGON;3ARGON
1D098;BYZANTgE MUSICAL u IMIDIARGON;3DIARGON;3AGOGI POLI ARGI;4ARGOTiI;4ARGI;4METRIA;4MESI;4GORGI
1D0A0;BYZANTgE MUSICAL u AGOGI GORGOTiI;4POLI GORGI;3MARTYRIA PROTOS ICHOS;4ALLI PROTOS ICHOS
1D0A4;BYZANTgE MUSICAL u MARTYRIA DEYTiOS ICHOS;4ALLI DEYTiOS ICHOS;4TRITOS ICHOS;4TRIFONIAS
1D0A8;BYZANTgE MUSICAL u MARTYRIA TETARTOS ICHOS;5LEGETOS ICHOS;4LEGETOS ICHOS;4PLAGIOS ICHOS
1D0AC;BYZANTgE MUSICAL u ISAKIA TELOUS ICHIMATOS;3APOSTROFOI TELOUS ICHIMATOS
1D0AE;BYZANTgE MUSICAL u FANiOSIS TETRAFONIAS;4MONOFONIAS;4DIFONIAS;3MARTYRIA VARYS ICHOS
1D0B2;BYZANTgE MUSICAL u MARTYRIA PROTOVARYS ICHOS;4PLAGIOS TETARTOS ICHOS;3GORTHMIKON N APLOUN
1D0B5;BYZANTgE MUSICAL u GORTHMIKON N DIPLOUN;3ENARXIS KAI FTHORA VOU;3IMIFONON;3IMIFTHORON
1D0B9;BYZANTgE MUSICAL u FTHORA ARCHAION DEYTiOU ICHOU;4DIATONIKI PA;5NANA;4NAOS ICHOS
1D0BD;BYZANTgE MUSICAL u FTHORA DIATONIKI DI;4SKLIRON DIATONON DI;4DIATONIKI KE;5ZO;5NI KATO;6ANO
1D0C3;BYZANTgE MUSICAL u FTHORA MALAKON CHROMA DIFONIAS;6MONOFONIAS;3FHTORA SKLIRON CHROMA VASIS
1D0C6;BYZANTgE MUSICAL u FTHORA SKLIRON CHROMA SYNAFI;4NENANO;3CHROA ZYGOS;4KLITON;4SPATHI
1D0CB;BYZANTgE MUSICAL u FTHORA I YFESIS TETARTIMORION;4ENARMONIOS ANTIFONIA;3YFESIS TRITIMORION
1D0CE;BYZANTgE MUSICAL u DIESIS TRITIMORION;4TETARTIMORION;4APLI DYO DODEKATA
1D0D1;BYZANTgE MUSICAL u DIESIS MONOGRAMMOS TESSiA DODEKATA;4DIGRAMMOS EX DODEKATA
1D0D3;BYZANTgE MUSICAL u DIESIS TRIGRAMMOS OKTO DODEKATA;3YFESIS APLI DYO DODEKATA
1D0D5;BYZANTgE MUSICAL u YFESIS MONOGRAMMOS TESSiA DODEKATA;4DIGRAMMOS EX DODEKATA
1D0D7;BYZANTgE MUSICAL u YFESIS TRIGRAMMOS OKTO DODEKATA;3GENIKI DIESIS;4YFESIS
1D0DA;BYZANTgE MUSICAL u DIASTOLI APLI MIKRI;5MEGALI;4DIPLI;4THESEOS;3SIMANSIS THESEOS;5DISIMOU
1D0E0;BYZANTgE MUSICAL u SIMANSIS THESEOS TRISIMOU;5TETRASIMOU;4ARSEOS;5DISIMOU;5TRISIMOU
1D0E5;BYZANTgE MUSICAL u SIMANSIS ARSEOS TETRASIMOU;3DIGRAMMA GG;3DIFTOGGOS OU;3STIGMA;3ARKTIKO PA
1D0EA;BYZANTgE MUSICAL u ARKTIKO VOU;4GA;4DI;4KE;4ZO;4NI;3KENTIMATA NEO MESO;3KENTIMA NEO MESO
1D0F2;BYZANTgE MUSICAL u KENTIMATA NEO KATO;3KENTIMA NEO KATO;3KLASMA KATO;3GORGON NEO KATO
1D100;MUSICAL u SgGLE BARLgE;2r BARLgE;2FgAL BARLgE;2REViSE FgAL BARLgE;2DASHm BARLgE
1D105;MUSICAL u SHORT BARLgE;2p REPEAT n;2Rf REPEAT n;2REPEAT sS;2DAL SEGNO;2DA CAPO;2SEGNO;2CODA
1D10D;MUSICAL u REPEATm FIGURE-1;3FIGURE-2;3FIGURE-3;2FiMATA;3x;2BREATH MARK;2CAESURA;2BRACE
1D115;MUSICAL u BRACKET;2ONE-LgE STAFF;2TWO-LgE STAFF;2THREE-LgE STAFF;2FOUR-LgE STAFF
1D11A;MUSICAL u FIVE-LgE STAFF;2SIX-LgE STAFF;2SIX-STRgG FRETBOARD;2FOUR-STRgG FRETBOARD;2G CLEF
1D11F;MUSICAL u G CLEF OTTAVA ALTA;5BASSA;2C CLEF;2F CLEF;4OTTAVA ALTA;5BASSA;2DRUM CLEF-1;3CLEF-2
1D129;MUSICAL u MULTIPLE MEASURE REST;2r SHARP;3FLAT;2FLAT UP;3DOWN;2NATURAL UP;3DOWN;2SHARP UP
1D131;MUSICAL u SHARP DOWN;2QUARTi TONE SHARP;4FLAT;2COMMON TIME;2CUT TIME;2OTTAVA ALTA;3BASSA
1D138;MUSICAL u QUgDICESIMA ALTA;3BASSA;2MULTI REST;2WHOLE REST;2HALF REST;2QUARTi REST;2EfH REST
1D13F;MUSICAL u SIXTEENTH REST;2THIRTY-SECOND REST;2SIXTY-FOURTH REST;2ONE HUNDRm TWENTY-EfH REST
1D143;MUSICAL u X NOTEHEAD;2PLUS NOTEHEAD;2CIRCLE X NOTEHEAD;2SQUARE NOTEHEAD WHITE;4z
1D148;MUSICAL u w NOTEHEAD UP WHITE;5z;4p WHITE;5z;4Rf WHITE;5z;4DOWN WHITE;5z;4UP Rf WHITE;6z
1D152;MUSICAL u MOON NOTEHEAD WHITE;4z;2w-ROUND NOTEHEAD DOWN WHITE;5z;2PARENTHESIS NOTEHEAD
1D157;MUSICAL u VOID NOTEHEAD;2NOTEHEAD z;2NULL NOTEHEAD;2CLUSTi NOTEHEAD WHITE;4z;2BREVE
1D15D;MUSICAL u WHOLE NOTE;2HALF NOTE;2QUARTi NOTE;2EfH NOTE;2SIXTEENTH NOTE;2THIRTY-SECOND NOTE
1D163;MUSICAL u SIXTY-FOURTH NOTE;2ONE HUNDRm TWENTY-EfH NOTE;2COMBggG STEM;3SPRECHGESANG STEM
1D167;MUSICAL u COMBggG TREMOLO-1;3TREMOLO-2;3TREMOLO-3;2FgGim TREMOLO-1;3TREMOLO-2;3TREMOLO-3
1D16D;MUSICAL u COMBggG AUGMENTAv s;3FLAG-1;3FLAG-2;3FLAG-3;3FLAG-4;3FLAG-5;2BEGg BEAM;2END BEAM
1D175;MUSICAL u BEGg TIE;2END TIE;2BEGg SLUR;2END SLUR;2BEGg PHRASE;2END PHRASE;2COMBggG ACCENT
1D17C;MUSICAL u COMBggG STACCATO;3TENUTO;3STACCATISSIMO;3MARCATO;3MARCATO-STACCATO
1D181;MUSICAL u COMBggG ACCENT-STACCATO;3LOURE;2ARPEGGIATO UP;3DOWN;2COMBggG DOIT;3RIP;3FLIP
1D188;MUSICAL u COMBggG SMEAR;3BEND;3r TONGUE;3TRIPLE TONGUE;2RgFORZlO;2SUBITO;2Z;2PIANO;2MEZZO
1D191;MUSICAL u FORTE;2CRESCENDO;2DECRESCENDO;2GRACE NOTE SLASH;4NO SLASH;2TR;2TURN;2gViTm TURN
1D199;MUSICAL u TURN SLASH;3UP;2ORNAMENT y-1;3y-2;3y-3;3y-4;3y-5;3y-6;3y-7;3y-8;3y-9;3y-10;3y-11
1D1A6;MUSICAL u HAUPTSTIMME;2NEBENSTIMME;2END OF STIMME;2DEGREE SLASH;2COMBggG DOWN BOW;3UP BOW
1D1AC;MUSICAL u COMBggG HARMONIC;3SNAP PIZZICATO;2PmAL MARK;3UP MARK;2HALF PmAL MARK;2GLISSlO UP
1D1B2;MUSICAL u GLISSlO DOWN;2c FgGiNAILS;2DAMP;3ALL;2MAXIMA;2LONGA;2BREVIS;2SEMIBREVIS WHITE;3z
1D1BB;MUSICAL u MgIMA;3z;2SEMIMgIMA WHITE;3z;2FUSA WHITE;3z;2LONGA PiFECTA REST;3IMPiFECTA REST
1D1C3;MUSICAL u BREVIS REST;2SEMIBREVIS REST;2MgIMA REST;2SEMIMgIMA REST
1D1C7;MUSICAL u TEMPUS PiFECTUM CUM PROLAvE PiFECTA;6IMPiFECTA;6PiFECTA DIMgUv-1
1D1CA;MUSICAL u TEMPUS IMPiFECTUM CUM PROLAvE PiFECTA;6IMPiFECTA;7DIMgUv-1;7DIMgUv-2;7DIMgUv-3
1D1CF;MUSICAL u CROIX;2GREGORIAN C CLEF;3F CLEF;2SQUARE B;2VIRGA;2PODATUS;2CLIVIS;2SClICUS
1D1D7;MUSICAL u CLIMACUS;2TORCULUS;2PORRECTUS;3FLEXUS;2SClICUS FLEXUS;2TORCULUS RESUPgUS
1D1DD;MUSICAL u PES SUBPUNCTIS;2KIEVAN C CLEF;3END OF PIECE;3FgAL NOTE;3RECITATIVE MARK
1D1E2;MUSICAL u KIEVAN WHOLE NOTE;3HALF NOTE;3QUARTi NOTE STEM DOWN;6UP;3EfH NOTE STEM DOWN;6UP
1D1E8;MUSICAL u KIEVAN FLAT n;2SORI;2KORON
1D200;GREEK VOCAL NOTAv u-1;3u-2;3u-3;3u-4;3u-5;3u-6;3u-7;3u-8;3u-9;3u-10;3u-11;3u-12;3u-13;3u-14
1D20E;GREEK VOCAL NOTAv u-15;3u-16;3u-17;3u-18;3u-19;3u-20;3u-21;3u-22;3u-23;3u-24;3u-50;3u-51
1D21A;GREEK VOCAL NOTAv u-52;3u-53;3u-54;1gSTRUMENTAL NOTAv u-1;3u-2;3u-4;3u-5;3u-7;3u-8;3u-11
1D224;GREEK gSTRUMENTAL NOTAv u-12;3u-13;3u-14;3u-17;3u-18;3u-19;3u-23;3u-24;3u-25;3u-26;3u-27
1D22F;GREEK gSTRUMENTAL NOTAv u-29;3u-30;3u-32;3u-36;3u-37;3u-38;3u-39;3u-40;3u-42;3u-43;3u-45
1D23A;GREEK gSTRUMENTAL NOTAv u-47;3u-48;3u-49;3u-50;3u-51;3u-52;3u-53;3u-54
1D242;COMBggG GREEK MUSICAL TRISEME;3TETRASEME;3PENTASEME;GREEK MUSICAL LEIMMA
1D2E0;MAYAN NUMiAL ZiO;2ONE;2TWO;2THREE;2FOUR;2FIVE;2SIX;2SEVEN;2Ef;2NgE;2TEN;2ELEVEN;2TWELVE
1D2ED;MAYAN NUMiAL THIRTEEN;2FOURTEEN;2FIFTEEN;2SIXTEEN;2SEVENTEEN;2EfEEN;2NgETEEN
1D300;MONOGRAM FOR EARTH;DIGRAM FOR HEAVENLY EARTH;2HUMAN EARTH;2EARTHLY HEAVEN;3HUMAN;2EARTH
1D306;TETRAGRAM FOR CENTRE;2FULL CIRCLE;2MIRm;2BARRIi;2KEEPgG e;2CONTRARIETY;2ASCENT;2OPPOSIv
1D30E;TETRAGRAM FOR BRANCHgG OUT;2DEFECTIVENESS OR DISTORv;2DIViGENCE;2YOUTHFULNESS;2gCREASE
1D313;TETRAGRAM FOR PENETRAv;2REACH;2CONTACT;2HOLDgG BACK;2WAITgG;2FOLLOWgG;2ADVANCE;2RELEASE
1D31B;TETRAGRAM FOR RESISTANCE;2EASE;2JOY;2CONTENv;2ENDEAVOUR;2DUTIES;2CHANGE;2DECISIVENESS
1D323;TETRAGRAM FOR BOLD RESOLUv;2PACKgG;2LEGION;2CLOSENESS;2KgSHIP;2GATHigG;2STRENGTH;2PURITY
1D32B;TETRAGRAM FOR FULLNESS;2RESIDENCE;2LAW OR MODEL;2RESPONSE;2GOgG TO MEET;2ENCOUNTiS;2STOVE
1D332;TETRAGRAM FOR GREATNESS;2ENLARGEMENT;2PATTiN;2RITUAL;2FLf;2VASTNESS OR WASTgG;2CONSTANCY
1D339;TETRAGRAM FOR MEASURE;2ETiNITY;2UNITY;2DIMgISHMENT;2CLOSm MOUTH;2GUARDmNESS;2GATHigG g
1D340;TETRAGRAM FOR MASSgG;2ACCUMULAv;2EMBELLISHMENT;2DOUBT;2WATCH;2SgKgG;2gNi;2DEPARTURE
1D348;TETRAGRAM FOR DARKENgG;2DIMMgG;2EXHAUSv;2SEViANCE;2STOPPAGE;2HARDNESS;2COMPLEv;2CLOSURE
1D350;TETRAGRAM FOR FAILURE;2AGGRAVAv;2COMPLIANCE;2ON THE ViGE;2DIFFICULTIES;2LABOURgG;2FOSTigG
1D360;COUNTgG ROD UNIT DIGIT ONE;4TWO;4THREE;4FOUR;4FIVE;4SIX;4SEVEN;4Ef;4NgE;2TENS DIGIT ONE;4TWO
1D36B;COUNTgG ROD TENS DIGIT THREE;4FOUR;4FIVE;4SIX;4SEVEN;4Ef;4NgE;IDEOGRAPHIC TALLY MARK ONE
1D373;IDEOGRAPHIC TALLY MARK TWO;3THREE;3FOUR;3FIVE;TALLY MARK ONE;2FIVE
1D400;MATHEMATICAL BOLD d A;3B;3C;3D;3E;3F;3G;3H;3I;3J;3K;3L;3M;3N;3O;3P;3Q;3R;3S;3T;3U;3V;3W;3X
1D418;MATHEMATICAL BOLD d Y;3Z;2e A;3B;3C;3D;3E;3F;3G;3H;3I;3J;3K;3L;3M;3N;3O;3P;3Q;3R;3S;3T;3U;3V
1D430;MATHEMATICAL BOLD e W;3X;3Y;3Z;1ITALIC d A;3B;3C;3D;3E;3F;3G;3H;3I;3J;3K;3L;3M;3N;3O;3P;3Q
1D445;MATHEMATICAL ITALIC d R;3S;3T;3U;3V;3W;3X;3Y;3Z;2e A;3B;3C;3D;3E;3F;3G
1D456;MATHEMATICAL ITALIC e I;3J;3K;3L;3M;3N;3O;3P;3Q;3R;3S;3T;3U;3V;3W;3X;3Y;3Z;1BOLD ITALIC d A
1D469;MATHEMATICAL BOLD ITALIC d B;4C;4D;4E;4F;4G;4H;4I;4J;4K;4L;4M;4N;4O;4P;4Q;4R;4S;4T;4U;4V;4W
1D47F;MATHEMATICAL BOLD ITALIC d X;4Y;4Z;3e A;4B;4C;4D;4E;4F;4G;4H;4I;4J;4K;4L;4M;4N;4O;4P;4Q;4R
1D494;MATHEMATICAL BOLD ITALIC e S;4T;4U;4V;4W;4X;4Y;4Z;1SCRIPT d A
1D49E;MATHEMATICAL SCRIPT d C;3D
1D4A2;MATHEMATICAL SCRIPT d G
1D4A5;MATHEMATICAL SCRIPT d J;3K
1D4A9;MATHEMATICAL SCRIPT d N;3O;3P;3Q
1D4AE;MATHEMATICAL SCRIPT d S;3T;3U;3V;3W;3X;3Y;3Z;2e A;3B;3C;3D
1D4BB;MATHEMATICAL SCRIPT e F
1D4BD;MATHEMATICAL SCRIPT e H;3I;3J;3K;3L;3M;3N
1D4C5;MATHEMATICAL SCRIPT e P;3Q;3R;3S;3T;3U;3V;3W;3X;3Y;3Z;1BOLD SCRIPT d A;4B;4C;4D;4E;4F;4G;4H
1D4D8;MATHEMATICAL BOLD SCRIPT d I;4J;4K;4L;4M;4N;4O;4P;4Q;4R;4S;4T;4U;4V;4W;4X;4Y;4Z;3e A;4B;4C
1D4ED;MATHEMATICAL BOLD SCRIPT e D;4E;4F;4G;4H;4I;4J;4K;4L;4M;4N;4O;4P;4Q;4R;4S;4T;4U;4V;4W;4X;4Y
1D503;MATHEMATICAL BOLD SCRIPT e Z;1FRAKTUR d A;3B
1D507;MATHEMATICAL FRAKTUR d D;3E;3F;3G
1D50D;MATHEMATICAL FRAKTUR d J;3K;3L;3M;3N;3O;3P;3Q
1D516;MATHEMATICAL FRAKTUR d S;3T;3U;3V;3W;3X;3Y
1D51E;MATHEMATICAL FRAKTUR e A;3B;3C;3D;3E;3F;3G;3H;3I;3J;3K;3L;3M;3N;3O;3P;3Q;3R;3S;3T;3U;3V;3W
1D535;MATHEMATICAL FRAKTUR e X;3Y;3Z;1r-STRUCK d A;3B
1D53B;MATHEMATICAL r-STRUCK d D;3E;3F;3G
1D540;MATHEMATICAL r-STRUCK d I;3J;3K;3L;3M
1D546;MATHEMATICAL r-STRUCK d O
1D54A;MATHEMATICAL r-STRUCK d S;3T;3U;3V;3W;3X;3Y
1D552;MATHEMATICAL r-STRUCK e A;3B;3C;3D;3E;3F;3G;3H;3I;3J;3K;3L;3M;3N;3O;3P;3Q;3R;3S;3T;3U;3V;3W
1D569;MATHEMATICAL r-STRUCK e X;3Y;3Z;1BOLD FRAKTUR d A;4B;4C;4D;4E;4F;4G;4H;4I;4J;4K;4L;4M;4N;4O
1D57B;MATHEMATICAL BOLD FRAKTUR d P;4Q;4R;4S;4T;4U;4V;4W;4X;4Y;4Z;3e A;4B;4C;4D;4E;4F;4G;4H;4I;4J
1D590;MATHEMATICAL BOLD FRAKTUR e K;4L;4M;4N;4O;4P;4Q;4R;4S;4T;4U;4V;4W;4X;4Y;4Z;1SANS-SiIF d A;3B
1D5A2;MATHEMATICAL SANS-SiIF d C;3D;3E;3F;3G;3H;3I;3J;3K;3L;3M;3N;3O;3P;3Q;3R;3S;3T;3U;3V;3W;3X;3Y
1D5B9;MATHEMATICAL SANS-SiIF d Z;2e A;3B;3C;3D;3E;3F;3G;3H;3I;3J;3K;3L;3M;3N;3O;3P;3Q;3R;3S;3T;3U
1D5CF;MATHEMATICAL SANS-SiIF e V;3W;3X;3Y;3Z;2BOLD d A;4B;4C;4D;4E;4F;4G;4H;4I;4J;4K;4L;4M;4N;4O
1D5E3;MATHEMATICAL SANS-SiIF BOLD d P;4Q;4R;4S;4T;4U;4V;4W;4X;4Y;4Z;3e A;4B;4C;4D;4E;4F;4G;4H;4I
1D5F7;MATHEMATICAL SANS-SiIF BOLD e J;4K;4L;4M;4N;4O;4P;4Q;4R;4S;4T;4U;4V;4W;4X;4Y;4Z;2ITALIC d A
1D609;MATHEMATICAL SANS-SiIF ITALIC d B;4C;4D;4E;4F;4G;4H;4I;4J;4K;4L;4M;4N;4O;4P;4Q;4R;4S;4T;4U
1D61D;MATHEMATICAL SANS-SiIF ITALIC d V;4W;4X;4Y;4Z;3e A;4B;4C;4D;4E;4F;4G;4H;4I;4J;4K;4L;4M;4N;4O
1D631;MATHEMATICAL SANS-SiIF ITALIC e P;4Q;4R;4S;4T;4U;4V;4W;4X;4Y;4Z;2BOLD ITALIC d A;5B;5C;5D;5E
1D641;MATHEMATICAL SANS-SiIF BOLD ITALIC d F;5G;5H;5I;5J;5K;5L;5M;5N;5O;5P;5Q;5R;5S;5T;5U;5V;5W;5X
1D654;MATHEMATICAL SANS-SiIF BOLD ITALIC d Y;5Z;4e A;5B;5C;5D;5E;5F;5G;5H;5I;5J;5K;5L;5M;5N;5O;5P
1D666;MATHEMATICAL SANS-SiIF BOLD ITALIC e Q;5R;5S;5T;5U;5V;5W;5X;5Y;5Z;1MONOSPACE d A;3B;3C;3D;3E
1D675;MATHEMATICAL MONOSPACE d F;3G;3H;3I;3J;3K;3L;3M;3N;3O;3P;3Q;3R;3S;3T;3U;3V;3W;3X;3Y;3Z;2e A
1D68B;MATHEMATICAL MONOSPACE e B;3C;3D;3E;3F;3G;3H;3I;3J;3K;3L;3M;3N;3O;3P;3Q;3R;3S;3T;3U;3V;3W;3X
1D6A2;MATHEMATICAL MONOSPACE e Y;3Z;1ITALIC e sLESS I;4J
1D6A8;MATHEMATICAL BOLD d ALPHA;3BETA;3GAMMA;3DELTA;3EPSILON;3ZETA;3ETA;3THETA;3IOTA;3KAPPA;3LAMDA
1D6B3;MATHEMATICAL BOLD d MU;3NU;3XI;3OMICRON;3PI;3RHO;3THETA u;3SIGMA;3TAU;3UPSILON;3PHI;3CHI
1D6BF;MATHEMATICAL BOLD d PSI;3OMEGA;2NABLA;2e ALPHA;3BETA;3GAMMA;3DELTA;3EPSILON;3ZETA;3ETA
1D6C9;MATHEMATICAL BOLD e THETA;3IOTA;3KAPPA;3LAMDA;3MU;3NU;3XI;3OMICRON;3PI;3RHO;3FgAL SIGMA
1D6D4;MATHEMATICAL BOLD e SIGMA;3TAU;3UPSILON;3PHI;3CHI;3PSI;3OMEGA;2PARTIAL DIFFiENTIAL
1D6DC;MATHEMATICAL BOLD EPSILON u;2THETA u;2KAPPA u;2PHI u;2RHO u;2PI u;1ITALIC d ALPHA;3BETA
1D6E4;MATHEMATICAL ITALIC d GAMMA;3DELTA;3EPSILON;3ZETA;3ETA;3THETA;3IOTA;3KAPPA;3LAMDA;3MU;3NU
1D6EF;MATHEMATICAL ITALIC d XI;3OMICRON;3PI;3RHO;3THETA u;3SIGMA;3TAU;3UPSILON;3PHI;3CHI;3PSI
1D6FA;MATHEMATICAL ITALIC d OMEGA;2NABLA;2e ALPHA;3BETA;3GAMMA;3DELTA;3EPSILON;3ZETA;3ETA;3THETA
1D704;MATHEMATICAL ITALIC e IOTA;3KAPPA;3LAMDA;3MU;3NU;3XI;3OMICRON;3PI;3RHO;3FgAL SIGMA;3SIGMA
1D70F;MATHEMATICAL ITALIC e TAU;3UPSILON;3PHI;3CHI;3PSI;3OMEGA;2PARTIAL DIFFiENTIAL;2EPSILON u
1D717;MATHEMATICAL ITALIC THETA u;2KAPPA u;2PHI u;2RHO u;2PI u;1BOLD ITALIC d ALPHA;4BETA;4GAMMA
1D71F;MATHEMATICAL BOLD ITALIC d DELTA;4EPSILON;4ZETA;4ETA;4THETA;4IOTA;4KAPPA;4LAMDA;4MU;4NU;4XI
1D72A;MATHEMATICAL BOLD ITALIC d OMICRON;4PI;4RHO;4THETA u;4SIGMA;4TAU;4UPSILON;4PHI;4CHI;4PSI
1D734;MATHEMATICAL BOLD ITALIC d OMEGA;3NABLA;3e ALPHA;4BETA;4GAMMA;4DELTA;4EPSILON;4ZETA;4ETA
1D73D;MATHEMATICAL BOLD ITALIC e THETA;4IOTA;4KAPPA;4LAMDA;4MU;4NU;4XI;4OMICRON;4PI;4RHO
1D747;MATHEMATICAL BOLD ITALIC e FgAL SIGMA;4SIGMA;4TAU;4UPSILON;4PHI;4CHI;4PSI;4OMEGA
1D74F;MATHEMATICAL BOLD ITALIC PARTIAL DIFFiENTIAL;3EPSILON u;3THETA u;3KAPPA u;3PHI u;3RHO u
1D755;MATHEMATICAL BOLD ITALIC PI u;1SANS-SiIF BOLD d ALPHA;4BETA;4GAMMA;4DELTA;4EPSILON;4ZETA
1D75C;MATHEMATICAL SANS-SiIF BOLD d ETA;4THETA;4IOTA;4KAPPA;4LAMDA;4MU;4NU;4XI;4OMICRON;4PI;4RHO
1D767;MATHEMATICAL SANS-SiIF BOLD d THETA u;4SIGMA;4TAU;4UPSILON;4PHI;4CHI;4PSI;4OMEGA;3NABLA
1D770;MATHEMATICAL SANS-SiIF BOLD e ALPHA;4BETA;4GAMMA;4DELTA;4EPSILON;4ZETA;4ETA;4THETA;4IOTA
1D779;MATHEMATICAL SANS-SiIF BOLD e KAPPA;4LAMDA;4MU;4NU;4XI;4OMICRON;4PI;4RHO;4FgAL SIGMA;4SIGMA
1D783;MATHEMATICAL SANS-SiIF BOLD e TAU;4UPSILON;4PHI;4CHI;4PSI;4OMEGA;3PARTIAL DIFFiENTIAL
1D78A;MATHEMATICAL SANS-SiIF BOLD EPSILON u;3THETA u;3KAPPA u;3PHI u;3RHO u;3PI u;3ITALIC d ALPHA
1D791;MATHEMATICAL SANS-SiIF BOLD ITALIC d BETA;5GAMMA;5DELTA;5EPSILON;5ZETA;5ETA;5THETA;5IOTA
1D799;MATHEMATICAL SANS-SiIF BOLD ITALIC d KAPPA;5LAMDA;5MU;5NU;5XI;5OMICRON;5PI;5RHO;5THETA u
1D7A2;MATHEMATICAL SANS-SiIF BOLD ITALIC d SIGMA;5TAU;5UPSILON;5PHI;5CHI;5PSI;5OMEGA;4NABLA
1D7AA;MATHEMATICAL SANS-SiIF BOLD ITALIC e ALPHA;5BETA;5GAMMA;5DELTA;5EPSILON;5ZETA;5ETA;5THETA
1D7B2;MATHEMATICAL SANS-SiIF BOLD ITALIC e IOTA;5KAPPA;5LAMDA;5MU;5NU;5XI;5OMICRON;5PI;5RHO
1D7BB;MATHEMATICAL SANS-SiIF BOLD ITALIC e FgAL SIGMA;5SIGMA;5TAU;5UPSILON;5PHI;5CHI;5PSI;5OMEGA
1D7C3;MATHEMATICAL SANS-SiIF BOLD ITALIC PARTIAL DIFFiENTIAL;4EPSILON u;4THETA u;4KAPPA u;4PHI u
1D7C8;MATHEMATICAL SANS-SiIF BOLD ITALIC RHO u;4PI u;1BOLD d DIGAMMA;2e DIGAMMA
1D7CE;MATHEMATICAL BOLD DIGIT ZiO;3ONE;3TWO;3THREE;3FOUR;3FIVE;3SIX;3SEVEN;3Ef;3NgE
1D7D8;MATHEMATICAL r-STRUCK DIGIT ZiO;3ONE;3TWO;3THREE;3FOUR;3FIVE;3SIX;3SEVEN;3Ef;3NgE
1D7E2;MATHEMATICAL SANS-SiIF DIGIT ZiO;3ONE;3TWO;3THREE;3FOUR;3FIVE;3SIX;3SEVEN;3Ef;3NgE
1D7EC;MATHEMATICAL SANS-SiIF BOLD DIGIT ZiO;4ONE;4TWO;4THREE;4FOUR;4FIVE;4SIX;4SEVEN;4Ef;4NgE
1D7F6;MATHEMATICAL MONOSPACE DIGIT ZiO;3ONE;3TWO;3THREE;3FOUR;3FIVE;3SIX;3SEVEN;3Ef;3NgE
1D800;nWRITgG Hl-FIST gDEX;1Hl-CIRCLE gDEX;1Hl-CUP gDEX;1Hl-OVAL gDEX;1Hl-HgGE gDEX;1Hl-ANGLE gDEX
1D806;nWRITgG Hl-FIST gDEX BENT;1Hl-CIRCLE gDEX BENT;1Hl-FIST THUMB UNDi gDEX BENT
1D809;nWRITgG Hl-FIST gDEX RAISm KNUCKLE;3CUPPm;3HgGm;4LOW;1Hl-CIRCLE gDEX HgGE
1D80E;nWRITgG Hl-FIST gDEX MIDDLE;1Hl-CIRCLE gDEX MIDDLE;1Hl-FIST gDEX MIDDLE BENT;4RAISm KNUCKLES
1D812;nWRITgG Hl-FIST gDEX MIDDLE HgGm;3UP MIDDLE HgGm;3HgGm MIDDLE UP;3MIDDLE CONJOgm;5gDEX BENT
1D817;nWRITgG Hl-FIST gDEX MIDDLE CONJOgm MIDDLE BENT;5CUPPm;5HgGm;4CROSSm
1D81B;nWRITgG Hl-CIRCLE gDEX MIDDLE CROSSm;1Hl-FIST MIDDLE BENT OVi gDEX;2gDEX BENT OVi MIDDLE
1D81E;nWRITgG Hl-FIST gDEX MIDDLE THUMB;1Hl-CIRCLE gDEX MIDDLE THUMB
1D820;nWRITgG Hl-FIST gDEX MIDDLE STRAf THUMB BENT;4BENT THUMB STRAf;4THUMB BENT
1D823;nWRITgG Hl-FIST gDEX MIDDLE HgGm SPREAD THUMB SIDE;3UP MIDDLE HgGm THUMB SIDE;7CONJOgm
1D826;nWRITgG Hl-FIST gDEX HgGm MIDDLE UP THUMB SIDE;3MIDDLE UP SPREAD THUMB FORWARD;4THUMB CUPPm
1D829;nWRITgG Hl-FIST gDEX MIDDLE THUMB CIRCLm;5HOOKm;5HgGm;2THUMB BETWEEN gDEX MIDDLE STRAf
1D82D;nWRITgG Hl-FIST gDEX MIDDLE CONJOgm THUMB SIDE;7CONJOgm;7BENT;2MIDDLE THUMB HOOKm gDEX UP
1D831;nWRITgG Hl-FIST gDEX THUMB HOOKm MIDDLE UP;3MIDDLE CONJOgm HgGm THUMB SIDE
1D833;nWRITgG Hl-FIST gDEX MIDDLE CROSSm THUMB SIDE;4CONJOgm THUMB FORWARD;5CUPPm THUMB FORWARD
1D836;nWRITgG Hl-FIST MIDDLE THUMB CUPPm gDEX UP;2gDEX THUMB CUPPm MIDDLE UP
1D838;nWRITgG Hl-FIST MIDDLE THUMB CIRCLm gDEX UP;6HgGm;2gDEX THUMB ANGLm OUT MIDDLE UP
1D83B;nWRITgG Hl-FIST gDEX THUMB ANGLm g MIDDLE UP;4CIRCLm MIDDLE UP;3MIDDLE THUMB CONJOgm HgGm
1D83E;nWRITgG Hl-FIST gDEX MIDDLE THUMB ANGLm OUT;5ANGLm;2MIDDLE THUMB ANGLm OUT gDEX UP;7CROSSm
1D842;nWRITgG Hl-FIST MIDDLE THUMB ANGLm gDEX UP;2gDEX THUMB HOOKm MIDDLE HgGm;1Hl-FLAT FOUR FgGiS
1D845;nWRITgG Hl-FLAT FOUR FgGiS BENT;4HgGm;4CONJOgm;5SPLIT;1Hl-CLAW FOUR FgGiS CONJOgm
1D84A;nWRITgG Hl-FIST FOUR FgGiS CONJOgm BENT;1Hl-HgGE FOUR FgGiS CONJOgm
1D84C;nWRITgG Hl-FLAT FIVE FgGiS SPREAD;2HEEL FIVE FgGiS SPREAD;2FIVE FgGiS SPREAD FOUR BENT
1D84F;nWRITgG Hl-FLAT HEEL FIVE FgGiS SPREAD FOUR BENT;2FIVE FgGiS SPREAD BENT
1D851;nWRITgG Hl-FLAT HEEL FIVE FgGiS SPREAD BENT;2FIVE FgGiS SPREAD THUMB FORWARD
1D853;nWRITgG Hl-CUP FIVE FgGiS SPREAD;5OPEN;1Hl-HgGE FIVE FgGiS SPREAD OPEN
1D856;nWRITgG Hl-OVAL FIVE FgGiS SPREAD;1Hl-FLAT FIVE FgGiS SPREAD HgGm;6THUMB SIDE;6NO THUMB
1D85A;nWRITgG Hl-FLAT;2BETWEEN PALM FACgGS;2HEEL;2THUMB SIDE;2HEEL THUMB SIDE;2THUMB BENT;3FORWARD
1D861;nWRITgG Hl-FLAT SPLIT gDEX THUMB SIDE;3CENTRE;4THUMB SIDE;6BENT;3LITTLE;1Hl-CLAW;2THUMB SIDE
1D868;nWRITgG Hl-CLAW NO THUMB;2THUMB FORWARD;1Hl-HOOK CURLICUE;1Hl-HOOK;1Hl-CUP OPEN;1Hl-CUP
1D86E;nWRITgG Hl-CUP OPEN THUMB SIDE;2THUMB SIDE;2OPEN NO THUMB;2NO THUMB;2OPEN THUMB FORWARD
1D873;nWRITgG Hl-CUP THUMB FORWARD;1Hl-CURLICUE OPEN;1Hl-CURLICUE;1Hl-CIRCLE;1Hl-OVAL;2THUMB SIDE
1D879;nWRITgG Hl-OVAL NO THUMB;2THUMB FORWARD;1Hl-HgGE OPEN;3THUMB FORWARD;1Hl-HgGE;2e
1D87F;nWRITgG Hl-HgGE OPEN THUMB SIDE;2THUMB SIDE;2OPEN NO THUMB;2NO THUMB
1D883;nWRITgG Hl-HgGE THUMB SIDE TOUCHgG gDEX;3BETWEEN MIDDLE RgG;1Hl-ANGLE
1D886;nWRITgG Hl-FIST gDEX MIDDLE RgG;1Hl-CIRCLE gDEX MIDDLE RgG;1Hl-HgGE gDEX MIDDLE RgG
1D889;nWRITgG Hl-ANGLE gDEX MIDDLE RgG;1Hl-HgGE LITTLE;1Hl-FIST gDEX MIDDLE RgG BENT;5CONJOgm
1D88D;nWRITgG Hl-HgGE gDEX MIDDLE RgG CONJOgm;1Hl-FIST LITTLE DOWN;4RIPPLE STRAf;5CURVm
1D891;nWRITgG Hl-FIST LITTLE DOWN OTHiS CIRCLm;3UP;2THUMB UNDi LITTLE UP;1Hl-CIRCLE LITTLE UP
1D895;nWRITgG Hl-OVAL LITTLE UP;1Hl-ANGLE LITTLE UP;1Hl-FIST LITTLE RAISm KNUCKLE;3BENT
1D899;nWRITgG Hl-FIST LITTLE TOUCHES THUMB;3THUMB;1Hl-HgGE LITTLE THUMB;1Hl-FIST LITTLE gDEX THUMB
1D89D;nWRITgG Hl-HgGE LITTLE gDEX THUMB;1Hl-ANGLE LITTLE gDEX THUMB gDEX THUMB OUT;6THUMB
1D8A0;nWRITgG Hl-FIST LITTLE gDEX;1Hl-CIRCLE LITTLE gDEX;1Hl-HgGE LITTLE gDEX
1D8A3;nWRITgG Hl-ANGLE LITTLE gDEX;1Hl-FIST gDEX MIDDLE LITTLE;1Hl-CIRCLE gDEX MIDDLE LITTLE
1D8A6;nWRITgG Hl-HgGE gDEX MIDDLE LITTLE;2RgG;1Hl-ANGLE gDEX MIDDLE LITTLE
1D8A9;nWRITgG Hl-FIST gDEX MIDDLE CROSS LITTLE;1Hl-CIRCLE gDEX MIDDLE CROSS LITTLE
1D8AB;nWRITgG Hl-FIST RgG DOWN;1Hl-HgGE RgG DOWN gDEX THUMB HOOK MIDDLE
1D8AD;nWRITgG Hl-ANGLE RgG DOWN MIDDLE THUMB gDEX CROSS;1Hl-FIST RgG UP;3RAISm KNUCKLE;3LITTLE
1D8B1;nWRITgG Hl-CIRCLE RgG LITTLE;1Hl-OVAL RgG LITTLE;1Hl-ANGLE RgG LITTLE;1Hl-FIST RgG MIDDLE
1D8B5;nWRITgG Hl-FIST RgG MIDDLE CONJOgm;4RAISm KNUCKLES;3gDEX;3THUMB;1Hl-HOOK RgG THUMB
1D8BA;nWRITgG Hl-FIST gDEX RgG LITTLE;1Hl-CIRCLE gDEX RgG LITTLE;1Hl-CURLICUE gDEX RgG LITTLE ON
1D8BD;nWRITgG Hl-HOOK gDEX RgG LITTLE OUT;5g;5UNDi;1Hl-CUP gDEX RgG LITTLE
1D8C1;nWRITgG Hl-HgGE gDEX RgG LITTLE;1Hl-ANGLE gDEX RgG LITTLE OUT;4LITTLE;1Hl-FIST MIDDLE DOWN
1D8C5;nWRITgG Hl-HgGE MIDDLE;1Hl-FIST MIDDLE UP;1Hl-CIRCLE MIDDLE UP;1Hl-FIST MIDDLE RAISm KNUCKLE
1D8C9;nWRITgG Hl-FIST MIDDLE UP THUMB SIDE;1Hl-HOOK MIDDLE THUMB;1Hl-FIST MIDDLE THUMB LITTLE
1D8CC;nWRITgG Hl-FIST MIDDLE LITTLE;3RgG LITTLE;1Hl-CIRCLE MIDDLE RgG LITTLE
1D8CF;nWRITgG Hl-CURLICUE MIDDLE RgG LITTLE ON;1Hl-CUP MIDDLE RgG LITTLE
1D8D1;nWRITgG Hl-HgGE MIDDLE RgG LITTLE;1Hl-ANGLE MIDDLE RgG LITTLE OUT;5g;4LITTLE
1D8D5;nWRITgG Hl-CIRCLE MIDDLE RgG LITTLE BENT;1Hl-CLAW MIDDLE RgG LITTLE CONJOgm;6SIDE
1D8D8;nWRITgG Hl-HOOK MIDDLE RgG LITTLE CONJOgm OUT;6g;5CONJOgm;1Hl-HgGE gDEX HgGm
1D8DC;nWRITgG Hl-FIST gDEX THUMB SIDE;1Hl-HgGE gDEX THUMB SIDE
1D8DE;nWRITgG Hl-FIST gDEX THUMB SIDE THUMB DIAGONAL;6CONJOgm;6BENT;5gDEX BENT;5BOTH BENT
1D8E3;nWRITgG Hl-FIST gDEX THUMB SIDE gDEX HgGE;4FORWARD gDEX STRAf;6BENT;4HOOK;4CURLICUE
1D8E8;nWRITgG Hl-FIST gDEX THUMB CURVE THUMB gSIDE;1Hl-CLAW gDEX THUMB CURVE THUMB gSIDE
1D8EA;nWRITgG Hl-FIST gDEX THUMB CURVE THUMB UNDi;4CIRCLE;1Hl-CUP gDEX THUMB;4OPEN
1D8EE;nWRITgG Hl-HgGE gDEX THUMB OPEN;4LARGE;3THUMB;4e;1Hl-ANGLE gDEX THUMB OUT;4g;3THUMB
1D8F5;nWRITgG Hl-FIST THUMB;3HEEL;3SIDE DIAGONAL;4CONJOgm;4BENT;3FORWARD;3BETWEEN gDEX MIDDLE
1D8FC;nWRITgG Hl-FIST THUMB BETWEEN MIDDLE RgG;4RgG LITTLE;3UNDi TWO FgGiS;3OVi TWO FgGiS
1D900;nWRITgG Hl-FIST THUMB UNDi THREE FgGiS;4FOUR FgGiS;3OVi FOUR RAISm KNUCKLES;1Hl-FIST;2HEEL
1D905;nWRITgG TOUCH SgGLE;2MULTIPLE;2BETWEEN;1GRASP SgGLE;2MULTIPLE;2BETWEEN;1STRIKE SgGLE
1D90C;nWRITgG STRIKE MULTIPLE;2BETWEEN;1BRUSH SgGLE;2MULTIPLE;2BETWEEN;1RUB SgGLE;2MULTIPLE
1D913;nWRITgG RUB BETWEEN;1SURFACE uS;2BETWEEN;1SQUEEZE LARGE SgGLE;2e SgGLE;2LARGE MULTIPLE
1D919;nWRITgG SQUEEZE e MULTIPLE;2SEQUENTIAL;1FLICK LARGE SgGLE;2e SgGLE;2LARGE MULTIPLE
1D91E;nWRITgG FLICK e MULTIPLE;2SEQUENTIAL;1SQUEEZE FLICK ALTiNATgG;1MOVEMENT-HgGE UP DOWN LARGE
1D922;nWRITgG MOVEMENT-HgGE UP DOWN e;3SEQUENTIAL;2DOWN SEQUENTIAL;2UP DOWN ALTiNATgG LARGE;5e
1D927;nWRITgG MOVEMENT-HgGE SIDE TO SIDE SCISSORS;1MOVEMENT-WALLPLANE FgGi CONTACT
1D929;nWRITgG MOVEMENT-FLOORPLANE FgGi CONTACT;1MOVEMENT-WALLPLANE SgGLE STRAf e;4MmIUM;4LARGE
1D92D;nWRITgG MOVEMENT-WALLPLANE SgGLE STRAf LARGEST;3WRIST FLEX;2r STRAf;3WRIST FLEX;3ALTiNATgG
1D932;nWRITgG MOVEMENT-WALLPLANE r ALTiNATgG WRIST FLEX;2CROSS;2TRIPLE STRAf MOVEMENT;3WRIST FLEX
1D936;nWRITgG MOVEMENT-WALLPLANE TRIPLE ALTiNATgG;4WRIST FLEX;2BEND e;3MmIUM;3LARGE;2CORNi e
1D93C;nWRITgG MOVEMENT-WALLPLANE CORNi MmIUM;3LARGE;3ROTAv;2CHECK e;3MmIUM;3LARGE;2BOX e;3MmIUM
1D944;nWRITgG MOVEMENT-WALLPLANE BOX LARGE;2ZIGZAG e;3MmIUM;3LARGE;2PEAKS e;3MmIUM;3LARGE
1D94B;nWRITgG TRAVEL-WALLPLANE ROTAv-WALLPLANE SgGLE;3r;3ALTiNATgG;2ROTAv-FLOORPLANE SgGLE;3r
1D950;nWRITgG TRAVEL-WALLPLANE ROTAv-FLOORPLANE ALTiNATgG;2SHAKgG;2ARM SPIRAL SgGLE;4r;4TRIPLE
1D955;nWRITgG MOVEMENT-DIAGONAL AWAY e;3MmIUM;3LARGE;3LARGEST;2TOk e;3MmIUM;3LARGE;3LARGEST
1D95D;nWRITgG MOVEMENT-DIAGONAL BETWEEN AWAY e;4MmIUM;4LARGE;4LARGEST;3TOk e;4MmIUM;4LARGE
1D964;nWRITgG MOVEMENT-DIAGONAL BETWEEN TOk LARGEST;1MOVEMENT-FLOORPLANE SgGLE STRAf e;4MmIUM
1D967;nWRITgG MOVEMENT-FLOORPLANE SgGLE STRAf LARGE;4LARGEST;3WRIST FLEX;2r STRAf;3WRIST FLEX
1D96C;nWRITgG MOVEMENT-FLOORPLANE r ALTiNATgG;4WRIST FLEX;2CROSS;2TRIPLE STRAf MOVEMENT
1D970;nWRITgG MOVEMENT-FLOORPLANE TRIPLE WRIST FLEX;3ALTiNATgG MOVEMENT;4WRIST FLEX;2BEND;2CORNi e
1D975;nWRITgG MOVEMENT-FLOORPLANE CORNi MmIUM;3LARGE;2CHECK;2BOX e;3MmIUM;3LARGE;2ZIGZAG e;3MmIUM
1D97D;nWRITgG MOVEMENT-FLOORPLANE ZIGZAG LARGE;2PEAKS e;3MmIUM;3LARGE
1D981;nWRITgG TRAVEL-FLOORPLANE ROTAv-FLOORPLANE SgGLE;3r;3ALTiNATgG;2ROTAv-WALLPLANE SgGLE;3r
1D986;nWRITgG TRAVEL-FLOORPLANE ROTAv-WALLPLANE ALTiNATgG;2SHAKgG
1D988;nWRITgG MOVEMENT-WALLPLANE CURVE QUARTi e;4MmIUM;4LARGE;4LARGEST;3HALF-CIRCLE e;4MmIUM
1D98E;nWRITgG MOVEMENT-WALLPLANE CURVE HALF-CIRCLE LARGE;4LARGEST;3THREE-QUARTi CIRCLE e;5MmIUM
1D992;nWRITgG MOVEMENT-WALLPLANE HUMP e;3MmIUM;3LARGE;2LOOP e;3MmIUM;3LARGE;3e r;2WAVE CURVE r e
1D99A;nWRITgG MOVEMENT-WALLPLANE WAVE CURVE r MmIUM;5LARGE;4TRIPLE e;5MmIUM;5LARGE
1D99F;nWRITgG MOVEMENT-WALLPLANE CURVE THEN STRAf;2CURVm CROSS e;4MmIUM;1ROTAv-WALLPLANE SgGLE;2r
1D9A4;nWRITgG ROTAv-WALLPLANE ALTiNATE;1MOVEMENT-WALLPLANE SHAKgG;2CURVE HITTgG FRONT WALL
1D9A7;nWRITgG MOVEMENT-WALLPLANE HUMP HITTgG FRONT WALL;2LOOP HITTgG FRONT WALL
1D9A9;nWRITgG MOVEMENT-WALLPLANE WAVE HITTgG FRONT WALL;1ROTAv-WALLPLANE SgGLE HITTgG FRONT WALL
1D9AB;nWRITgG ROTAv-WALLPLANE r HITTgG FRONT WALL;2ALTiNATgG HITTgG FRONT WALL
1D9AD;nWRITgG MOVEMENT-WALLPLANE CURVE HITTgG CHEST;2HUMP HITTgG CHEST;2LOOP HITTgG CHEST
1D9B0;nWRITgG MOVEMENT-WALLPLANE WAVE HITTgG CHEST;1ROTAv-WALLPLANE SgGLE HITTgG CHEST
1D9B2;nWRITgG ROTAv-WALLPLANE r HITTgG CHEST;2ALTiNATgG HITTgG CHEST
1D9B4;nWRITgG MOVEMENT-WALLPLANE WAVE DIAGONAL PATH e;5MmIUM;5LARGE
1D9B7;nWRITgG MOVEMENT-FLOORPLANE CURVE HITTgG CEILgG e;5LARGE;2HUMP HITTgG CEILgG e r;5LARGE r
1D9BB;nWRITgG MOVEMENT-FLOORPLANE HUMP HITTgG CEILgG e TRIPLE;5LARGE TRIPLE
1D9BD;nWRITgG MOVEMENT-FLOORPLANE LOOP HITTgG CEILgG e SgGLE;5LARGE SgGLE;5e r;5LARGE r
1D9C1;nWRITgG MOVEMENT-FLOORPLANE WAVE HITTgG CEILgG e;5LARGE
1D9C3;nWRITgG ROTAv-FLOORPLANE SgGLE HITTgG CEILgG;2r HITTgG CEILgG;2ALTiNATgG HITTgG CEILgG
1D9C6;nWRITgG MOVEMENT-FLOORPLANE CURVE HITTgG FLOOR e;5LARGE;2HUMP HITTgG FLOOR e r;5LARGE r
1D9CA;nWRITgG MOVEMENT-FLOORPLANE HUMP HITTgG FLOOR TRIPLE e TRIPLE;6LARGE TRIPLE
1D9CC;nWRITgG MOVEMENT-FLOORPLANE LOOP HITTgG FLOOR e SgGLE;5LARGE SgGLE;5e r;5LARGE r
1D9D0;nWRITgG MOVEMENT-FLOORPLANE WAVE HITTgG FLOOR e;5LARGE;1ROTAv-FLOORPLANE SgGLE HITTgG FLOOR
1D9D3;nWRITgG ROTAv-FLOORPLANE r HITTgG FLOOR;2ALTiNATgG HITTgG FLOOR;1MOVEMENT-FLOORPLANE CURVE e
1D9D6;nWRITgG MOVEMENT-FLOORPLANE CURVE MmIUM;3LARGE;3LARGEST;3COMBgm;2HUMP e;2LOOP e;2WAVE SNAKE
1D9DD;nWRITgG MOVEMENT-FLOORPLANE WAVE e;3LARGE;1ROTAv-FLOORPLANE SgGLE;2r;2ALTiNATgG
1D9E2;nWRITgG MOVEMENT-FLOORPLANE SHAKgG PARALLEL;1MOVEMENT-WALLPLANE ARM CIRCLE e SgGLE
1D9E4;nWRITgG MOVEMENT-WALLPLANE ARM CIRCLE MmIUM SgGLE;4e r;4MmIUM r
1D9E7;nWRITgG MOVEMENT-FLOORPLANE ARM CIRCLE HITTgG WALL e SgGLE;6MmIUM SgGLE;6LARGE SgGLE;6e r
1D9EB;nWRITgG MOVEMENT-FLOORPLANE ARM CIRCLE HITTgG WALL MmIUM r;6LARGE r
1D9ED;nWRITgG MOVEMENT-WALLPLANE WRIST CIRCLE FRONT SgGLE;5r
1D9EF;nWRITgG MOVEMENT-FLOORPLANE WRIST CIRCLE HITTgG WALL SgGLE;6r
1D9F1;nWRITgG MOVEMENT-WALLPLANE FgGi CIRCLES SgGLE;4r
1D9F3;nWRITgG MOVEMENT-FLOORPLANE FgGi CIRCLES HITTgG WALL SgGLE;6r;1DYNAMIC hHEAD e;3LARGE;2FAST
1D9F8;nWRITgG DYNAMIC SLOW;2TENSE;2RELAXm;2SIMULTANEOUS;3ALTiNATgG;2EViY OTHi TIME;2GRADUAL;1HEAD
1DA00;nWRITgG HEAD RIM;2MOVEMENT-WALLPLANE STRAf;3TILT;2MOVEMENT-FLOORPLANE STRAf
1DA04;nWRITgG HEAD MOVEMENT-WALLPLANE CURVE;2MOVEMENT-FLOORPLANE CURVE;2MOVEMENT CIRCLE
1DA07;nWRITgG FACE DIRECv POSIv NOSE FORWARD TILTgG;5UP OR DOWN;8TILTgG;1EYEBROWS STRAf UP
1DA0B;nWRITgG EYEBROWS STRAf NEUTRAL;3DOWN;1DREAMY EYEBROWS NEUTRAL DOWN;3DOWN NEUTRAL;3UP NEUTRAL
1DA10;nWRITgG DREAMY EYEBROWS NEUTRAL UP;1FOREHEAD NEUTRAL;2CONTACT;2WRgKLm;1EYES OPEN;2SQUEEZm
1DA16;nWRITgG EYES CLOSm;1EYE BLgK SgGLE;3MULTIPLE;1EYES HALF OPEN;2WIDE OPEN;2HALF CLOSm
1DA1C;nWRITgG EYES WIDENgG MOVEMENT;1EYE WgK;1EYELASHES UP;2DOWN;2FLUTTigG
1DA21;nWRITgG EYEGAZE-WALLPLANE STRAf;3r;3ALTiNATgG;1EYEGAZE-FLOORPLANE STRAf;3r;3ALTiNATgG
1DA27;nWRITgG EYEGAZE-WALLPLANE CURVm;1EYEGAZE-FLOORPLANE CURVm;1EYEGAZE-WALLPLANE CIRCLgG
1DA2A;nWRITgG CHEEKS PUFFm;2NEUTRAL;2SUCKm;1TENSE CHEEKS HIGH;3MIDDLE;3LOW;1EARS;1NOSE NEUTRAL
1DA32;nWRITgG NOSE CONTACT;2WRgKLES;2WIGGLES;1AIR BLOWgG OUT;2SUCKgG g;2BLOW e ROTAvS
1DA38;nWRITgG AIR SUCK e ROTAvS;1BREATH gHALE;2EXHALE;1MOUTH CLOSm NEUTRAL;3FORWARD;3CONTACT
1DA3E;nWRITgG MOUTH SMILE;3WRgKLm;3OPEN;2FROWN;3WRgKLm;3OPEN;2OPEN CIRCLE;3FORWARD;3WRgKLm;3OVAL
1DA48;nWRITgG MOUTH OPEN OVAL WRgKLm;4YAWN;3RECTANGLE;4WRgKLm;4YAWN;2KISS;3FORWARD;3WRgKLm;2TENSE
1DA51;nWRITgG MOUTH TENSE FORWARD;3SUCKm;1LIPS PRESSm TOGETHi;1LIP LOWi OVi UPPi;2UPPi OVi LOWi
1DA56;nWRITgG MOUTH CORNiS;2WRgKLES SgGLE;3r;1TONGUE STICKgG OUT FAR;2LICKgG LIPS
1DA5B;nWRITgG TONGUE TIP BETWEEN LIPS;3TOUCHgG gSIDE MOUTH;2gSIDE MOUTH RELAXm;2MOVES AGAgST CHEEK
1DA5F;nWRITgG TONGUE CENTRE STICKgG OUT;3gSIDE MOUTH;1TEETH;2MOVEMENT;2ON TONGUE;4MOVEMENT;3LIPS
1DA66;nWRITgG TEETH ON LIPS MOVEMENT;2BITE LIPS;1MOVEMENT-WALLPLANE JAW;1MOVEMENT-FLOORPLANE JAW
1DA6A;nWRITgG NECK;1HAIR;1EXCITEMENT;1SHOULDi HIP SPgE;3POSIvS;1WALLPLANE SHOULDi HIP MOVE
1DA70;nWRITgG FLOORPLANE SHOULDi HIP MOVE;1SHOULDi TILTgG FROM WAIST
1DA72;nWRITgG TORSO-WALLPLANE STRAf STRETCH;2CURVm BEND;1TORSO-FLOORPLANE TWISTgG
1DA75;nWRITgG UPPi BODY TILTgG FROM HIP JOgTS;1LIMB COMBgAv;2LENGTH-1;2LENGTH-2;2LENGTH-3
1DA7A;nWRITgG LIMB LENGTH-4;2LENGTH-5;2LENGTH-6;2LENGTH-7;1FgGi;1LOCAv-WALLPLANE SPACE
1DA80;nWRITgG LOCAv-FLOORPLANE SPACE;1LOCAv HEf;2WIDTH;2DEPTH;2HEAD NECK;2TORSO;2LIMBS DIGITS
1DA87;nWRITgG COMMA;1FULL STOP;1SEMICOLON;1COLON;1PARENTHESIS
1DA9B;nWRITgG FILL MODIFIi-2;2MODIFIi-3;2MODIFIi-4;2MODIFIi-5;2MODIFIi-6
1DAA1;nWRITgG ROTAv MODIFIi-2;2MODIFIi-3;2MODIFIi-4;2MODIFIi-5;2MODIFIi-6;2MODIFIi-7;2MODIFIi-8
1DAA8;nWRITgG ROTAv MODIFIi-9;2MODIFIi-10;2MODIFIi-11;2MODIFIi-12;2MODIFIi-13;2MODIFIi-14
1DAAE;nWRITgG ROTAv MODIFIi-15;2MODIFIi-16
1DF00;LATg e a FENG DIGRAPH c TRILL;3REViSm SCRIPT G;1a e d TURNm G;1e a REViSm K;1a e d L c BELT
1DF05;LATg e a LEZH c RETROFLEX HOOK;3TURNm Y c BELT;3REViSm ENG
1DF08;LATg e a TURNm R c LONG LEG l RETROFLEX HOOK;3T c HOOK l RETROFLEX HOOK
1DF0A;LATg a RETROFLEX CLICK c RETROFLEX HOOK;1e a ESH c r BAR;7l CURL;3TURNm T c CURL
1DF0E;LATg a gViTm GLOTTAL STOP c CURL;2STRETCHm C c CURL;2e d TURNm K;1e a L c FISHHOOK
1DF12;LATg e a DEZH DIGRAPH c PALATAL HOOK;3L c BELT l PALATAL HOOK;3ENG c PALATAL HOOK
1DF15;LATg e a TURNm R c PALATAL HOOK;3R c FISHHOOK l PALATAL HOOK;3TESH DIGRAPH c PALATAL HOOK
1DF18;LATg e a EZH c PALATAL HOOK;3DEZH DIGRAPH c RETROFLEX HOOK;3I c y l RETROFLEX HOOK
1DF1B;LATg e a O c RETROFLEX HOOK;3TESH DIGRAPH c RETROFLEX HOOK;3C c RETROFLEX HOOK;3S c CURL
1E000;COMBggG GLAGOLITIC a AZU;3BUKY;3VmE;3GLAGOLI;3DOBRO;3YESTU;3ZHIVETE
1E008;COMBggG GLAGOLITIC a ZEMLJA;3IZHE;3gITIAL IZHE;3I;3DJiVI;3KAKO;3LJUDIJE;3MYSLITE;3NASHI;3ONU
1E012;COMBggG GLAGOLITIC a POKOJI;3RITSI;3SLOVO;3TVRIDO;3UKU;3FRITU;3HiU
1E01B;COMBggG GLAGOLITIC a SHTA;3TSI;3CHRIVI;3SHA;3YiU;3YiI;3YATI
1E023;COMBggG GLAGOLITIC a YU;3e YUS
1E026;COMBggG GLAGOLITIC a YO;3IOTATm e YUS;3BIG YUS;3IOTATm BIG YUS;3FITA
1E100;NYIAKENG PUACHUE HMONG a MA;4TSA;4NTA;4TA;4HA;4NA;4XA;4NKA;4CA;4LA;4SA;4ZA;4NCA;4NTSA;4KA
1E10F;NYIAKENG PUACHUE HMONG a DA;4NYA;4NRA;4VA;4NTXA;4TXA;4FA;4RA;4QA;4YA;4NQA;4PA;4XYA;4NPA;4DLA
1E11E;NYIAKENG PUACHUE HMONG a NPLA;4HAH;4MLA;4PLA;4GA;4RRA;4A;4AA;4I;4U;4O;4OO;4E;4EE;4W
1E130;NYIAKENG PUACHUE HMONG TONE-B;3TONE-M;3TONE-J;3TONE-V;3TONE-S;3TONE-G;3TONE-D;3n FOR PiSON
1E138;NYIAKENG PUACHUE HMONG n FOR THgG;5LOCAv;5ANIMAL;5gViTEBRATE;4XW XW;3SYLLABLE LENGTHENi
1E140;NYIAKENG PUACHUE HMONG DIGIT ZiO;4ONE;4TWO;4THREE;4FOUR;4FIVE;4SIX;4SEVEN;4Ef;4NgE
1E14E;NYIAKENG PUACHUE HMONG LOGOGRAM NYAJ;3CIRCLm CA
1E290;TOTO a PA;2BA;2TA;2DA;2KA;2GA;2MA;2NA;2NGA;2SA;2CHA;2YA;2WA;2JA;2HA;2RA;2LA;2I;2BREATHY I
1E2A3;TOTO a IU;2BREATHY IU;2U;2E;2BREATHY E;2EO;2BREATHY EO;2O;2AE;2BREATHY AE;2A;1n RISgG TONE
1E2C0;WANCHO a AA;2A;2BA;2CA;2DA;2GA;2YA;2PHA;2LA;2NA;2PA;2TA;2THA;2FA;2SA;2SHA;2JA;2ZA;2WA;2VA
1E2D4;WANCHO a KA;2O;2AU;2RA;2MA;2KHA;2HA;2E;2I;2NGA;2U;2LLHA;2TSA;2TRA;2ONG;2AANG;2ANG;2gG;2ON
1E2E7;WANCHO a EN;2AAN;2NYA;2UEN;2YIH;1TONE TUP;2TUPNI;2KOI;2KOgI;1DIGIT ZiO;2ONE;2TWO;2THREE
1E2F4;WANCHO DIGIT FOUR;2FIVE;2SIX;2SEVEN;2Ef;2NgE
1E2FF;WANCHO NGUN n
1E7E0;ETHIOPIC SYLLABLE HHYA;2HHYU;2HHYI;2HHYAA;2HHYEE;2HHYE;2HHYO
1E7E8;ETHIOPIC SYLLABLE GURAGE HHWA;2HHWI;2HHWEE;2HHWE
1E7ED;ETHIOPIC SYLLABLE GURAGE MWI;3MWEE
1E7F0;ETHIOPIC SYLLABLE GURAGE QWI;3QWEE;3QWE;3BWI;3BWEE;3KWI;3KWEE;3KWE;3GWI;3GWEE;3GWE;3FWI
1E7FC;ETHIOPIC SYLLABLE GURAGE FWEE;3PWI;3PWEE
1E800;MENDE KIKAKUI SYLLABLE M001 KI;3M002 KA;3M003 KU;3M065 KEE;3M095 KE;3M076 KOO;3M048 KO
1E807;MENDE KIKAKUI SYLLABLE M179 KUA;3M004 WI;3M005 WA;3M006 WU;3M126 WEE;3M118 WE;3M114 WOO
1E80E;MENDE KIKAKUI SYLLABLE M045 WO;3M194 WUI;3M143 WEI;3M061 WVI;3M049 WVA;3M139 WVE;3M007 Mg
1E815;MENDE KIKAKUI SYLLABLE M008 MAN;3M009 MUN;3M059 MEN;3M094 MON;3M154 MUAN;3M189 MUEN;3M010 BI
1E81C;MENDE KIKAKUI SYLLABLE M011 BA;3M012 BU;3M150 BEE;3M097 BE;3M103 BOO;3M138 BO;3M013 I
1E823;MENDE KIKAKUI SYLLABLE M014 A;3M015 U;3M163 EE;3M100 E;3M165 OO;3M147 O;3M137 EI;3M131 g
1E82B;MENDE KIKAKUI SYLLABLE M135 g;3M195 AN;3M178 EN;3M019 SI;3M020 SA;3M021 SU;3M162 SEE
1E832;MENDE KIKAKUI SYLLABLE M116 SE;3M136 SOO;3M079 SO;3M196 SIA;3M025 LI;3M026 LA;3M027 LU
1E839;MENDE KIKAKUI SYLLABLE M084 LEE;3M073 LE;3M054 LOO;3M153 LO;3M110 LONG LE;3M016 DI;3M017 DA
1E840;MENDE KIKAKUI SYLLABLE M018 DU;3M089 DEE;3M180 DOO;3M181 DO;3M022 TI;3M023 TA;3M024 TU
1E847;MENDE KIKAKUI SYLLABLE M091 TEE;3M055 TE;3M104 TOO;3M069 TO;3M028 JI;3M029 JA;3M030 JU
1E84E;MENDE KIKAKUI SYLLABLE M157 JEE;3M113 JE;3M160 JOO;3M063 JO;3M175 LONG JO;3M031 YI;3M032 YA
1E855;MENDE KIKAKUI SYLLABLE M033 YU;3M109 YEE;3M080 YE;3M141 YOO;3M121 YO;3M034 FI;3M035 FA
1E85C;MENDE KIKAKUI SYLLABLE M036 FU;3M078 FEE;3M075 FE;3M133 FOO;3M088 FO;3M197 FUA;3M101 FAN
1E863;MENDE KIKAKUI SYLLABLE M037 Ng;3M038 NAN;3M039 NUN;3M117 NEN;3M169 NON;3M176 HI;3M041 HA
1E86A;MENDE KIKAKUI SYLLABLE M186 HU;3M040 HEE;3M096 HE;3M042 HOO;3M140 HO;3M083 HEEI;3M128 HOOU
1E871;MENDE KIKAKUI SYLLABLE M053 Hg;3M130 HAN;3M087 HUN;3M052 HEN;3M193 HON;3M046 HUAN;3M090 NGGI
1E878;MENDE KIKAKUI SYLLABLE M043 NGGA;3M082 NGGU;3M115 NGGEE;3M146 NGGE;3M156 NGGOO;3M120 NGGO
1E87E;MENDE KIKAKUI SYLLABLE M159 NGGAA;3M127 NGGUA;3M086 LONG NGGE;3M106 LONG NGGOO
1E882;MENDE KIKAKUI SYLLABLE M183 LONG NGGO;3M155 GI;3M111 GA;3M168 GU;3M190 GEE;3M166 GUEI
1E888;MENDE KIKAKUI SYLLABLE M167 GUAN;3M184 NGEN;3M057 NGON;3M177 NGUAN;3M068 PI;3M099 PA
1E88E;MENDE KIKAKUI SYLLABLE M050 PU;3M081 PEE;3M051 PE;3M102 POO;3M066 PO;3M145 MBI;3M062 MBA
1E895;MENDE KIKAKUI SYLLABLE M122 MBU;3M047 MBEE;3M188 MBEE;3M072 MBE;3M172 MBOO;3M174 MBO
1E89B;MENDE KIKAKUI SYLLABLE M187 MBUU;3M161 LONG MBE;3M105 LONG MBOO;3M142 LONG MBO;3M132 KPI
1E8A0;MENDE KIKAKUI SYLLABLE M092 KPA;3M074 KPU;3M044 KPEE;3M108 KPE;3M112 KPOO;3M158 KPO
1E8A6;MENDE KIKAKUI SYLLABLE M124 GBI;3M056 GBA;3M148 GBU;3M093 GBEE;3M107 GBE;3M071 GBOO
1E8AC;MENDE KIKAKUI SYLLABLE M070 GBO;3M171 RA;3M123 NDI;3M129 NDA;3M125 NDU;3M191 NDEE;3M119 NDE
1E8B3;MENDE KIKAKUI SYLLABLE M067 NDOO;3M064 NDO;3M152 NJA;3M192 NJU;3M149 NJEE;3M134 NJOO
1E8B9;MENDE KIKAKUI SYLLABLE M182 VI;3M185 VA;3M151 VU;3M173 VEE;3M085 VE;3M144 VOO;3M077 VO
1E8C0;MENDE KIKAKUI SYLLABLE M164 NYg;3M058 NYAN;3M170 NYUN;3M098 NYEN;3M060 NYON
1E8C7;MENDE KIKAKUI DIGIT ONE;3TWO;3THREE;3FOUR;3FIVE;3SIX;3SEVEN;3Ef;3NgE;2COMBggG NUMBi TEENS
1E8D1;MENDE KIKAKUI COMBggG NUMBi TENS;4HUNDRmS;4THOUSlS;4TEN THOUSlS;4HUNDRm THOUSlS;4MILLIONS
1E900;ADLAM d a ALIF;3DAALI;3LAAM;3MIIM;3BA;3SgNYIIYHE;3PE;3BHE;3RA;3E;3FA;3I;3O;3DHA;3YHE;3WAW
1E910;ADLAM d a NUN;3KAF;3YA;3U;3JIIM;3CHI;3HA;3QAAF;3GA;3NYA;3TU;3NHA;3VA;3KHA;3GBE;3ZAL;3KPO
1E921;ADLAM d a SHA;1e a ALIF;3DAALI;3LAAM;3MIIM;3BA;3SgNYIIYHE;3PE;3BHE;3RA;3E;3FA;3I;3O;3DHA
1E930;ADLAM e a YHE;3WAW;3NUN;3KAF;3YA;3U;3JIIM;3CHI;3HA;3QAAF;3GA;3NYA;3TU;3NHA;3VA;3KHA;3GBE
1E941;ADLAM e a ZAL;3KPO;3SHA;1ALIF LENGTHENi;1VOWEL LENGTHENi;1GEMgAv MARK;1HAMZA
1E948;ADLAM CONSONANT MODIFIi;1GEMgATE CONSONANT MODIFIi;1NUKTA;1NASALIZAv MARK
1E950;ADLAM DIGIT ZiO;2ONE;2TWO;2THREE;2FOUR;2FIVE;2SIX;2SEVEN;2Ef;2NgE
1E95E;ADLAM gITIAL EXCLAMAv MARK;2QUESv MARK
1EC71;gDIC SIYAQ NUMBi ONE;3TWO;3THREE;3FOUR;3FIVE;3SIX;3SEVEN;3Ef;3NgE;3TEN;3TWENTY;3THIRTY
1EC7D;gDIC SIYAQ NUMBi FORTY;3FIFTY;3SIXTY;3SEVENTY;3EfY;3NgETY;3ONE HUNDRm;3TWO HUNDRm
1EC85;gDIC SIYAQ NUMBi THREE HUNDRm;3FOUR HUNDRm;3FIVE HUNDRm;3SIX HUNDRm;3SEVEN HUNDRm;3Ef HUNDRm
1EC8B;gDIC SIYAQ NUMBi NgE HUNDRm;3ONE THOUSl;3TWO THOUSl;3THREE THOUSl;3FOUR THOUSl;3FIVE THOUSl
1EC91;gDIC SIYAQ NUMBi SIX THOUSl;3SEVEN THOUSl;3Ef THOUSl;3NgE THOUSl;3TEN THOUSl;3TWENTY THOUSl
1EC97;gDIC SIYAQ NUMBi THIRTY THOUSl;3FORTY THOUSl;3FIFTY THOUSl;3SIXTY THOUSl;3SEVENTY THOUSl
1EC9C;gDIC SIYAQ NUMBi EfY THOUSl;3NgETY THOUSl;3LAKH;3LAKHAN;2LAKH MARK;2NUMBi KAROR;3KARORAN
1ECA3;gDIC SIYAQ NUMBi PREFIXm ONE;4TWO;4THREE;4FOUR;4FIVE;4SIX;4SEVEN;4Ef;4NgE;2PLACEHOLDi
1ECAD;gDIC SIYAQ FRACv ONE QUARTi;4HALF;3THREE QUARTiS;2RUPEE MARK;2NUMBi ALTiNATE ONE;4TWO
1ECB3;gDIC SIYAQ NUMBi ALTiNATE TEN THOUSl;2ALTiNATE LAKH MARK
1ED01;OTTOMAN SIYAQ NUMBi ONE;3TWO;3THREE;3FOUR;3FIVE;3SIX;3SEVEN;3Ef;3NgE;3TEN;3TWENTY;3THIRTY
1ED0D;OTTOMAN SIYAQ NUMBi FORTY;3FIFTY;3SIXTY;3SEVENTY;3EfY;3NgETY;3ONE HUNDRm;3TWO HUNDRm
1ED15;OTTOMAN SIYAQ NUMBi THREE HUNDRm;3FOUR HUNDRm;3FIVE HUNDRm;3SIX HUNDRm;3SEVEN HUNDRm
1ED1A;OTTOMAN SIYAQ NUMBi Ef HUNDRm;3NgE HUNDRm;3ONE THOUSl;3TWO THOUSl;3THREE THOUSl;3FOUR THOUSl
1ED20;OTTOMAN SIYAQ NUMBi FIVE THOUSl;3SIX THOUSl;3SEVEN THOUSl;3Ef THOUSl;3NgE THOUSl;3TEN THOUSl
1ED26;OTTOMAN SIYAQ NUMBi TWENTY THOUSl;3THIRTY THOUSl;3FORTY THOUSl;3FIFTY THOUSl;3SIXTY THOUSl
1ED2B;OTTOMAN SIYAQ NUMBi SEVENTY THOUSl;3EfY THOUSl;3NgETY THOUSl;2MARRATAN;2ALTiNATE NUMBi TWO
1ED30;OTTOMAN SIYAQ ALTiNATE NUMBi THREE;4FOUR;4FIVE;4SIX;4SEVEN;4Ef;4NgE;4TEN;4FOUR HUNDRm
1ED39;OTTOMAN SIYAQ ALTiNATE NUMBi SIX HUNDRm;4TWO THOUSl;4TEN THOUSl;2FRACv ONE HALF;4SIXTH
1EE00;ARABIC MATHEMATICAL ALEF;2BEH;2JEEM;2DAL
1EE05;ARABIC MATHEMATICAL WAW;2ZAg;2HAH;2TAH;2YEH;2KAF;2LAM;2MEEM;2NOON;2SEEN;2Ag;2FEH;2SAD;2QAF
1EE13;ARABIC MATHEMATICAL REH;2SHEEN;2TEH;2THEH;2KHAH;2THAL;2DAD;2ZAH;2GHAg;2sLESS BEH;3NOON;3FEH
1EE1F;ARABIC MATHEMATICAL sLESS QAF
1EE21;ARABIC MATHEMATICAL gITIAL BEH;3JEEM
1EE24;ARABIC MATHEMATICAL gITIAL HEH
1EE27;ARABIC MATHEMATICAL gITIAL HAH
1EE29;ARABIC MATHEMATICAL gITIAL YEH;3KAF;3LAM;3MEEM;3NOON;3SEEN;3Ag;3FEH;3SAD;3QAF
1EE34;ARABIC MATHEMATICAL gITIAL SHEEN;3TEH;3THEH;3KHAH
1EE39;ARABIC MATHEMATICAL gITIAL DAD
1EE3B;ARABIC MATHEMATICAL gITIAL GHAg
1EE42;ARABIC MATHEMATICAL TAILm JEEM
1EE47;ARABIC MATHEMATICAL TAILm HAH
1EE49;ARABIC MATHEMATICAL TAILm YEH
1EE4B;ARABIC MATHEMATICAL TAILm LAM
1EE4D;ARABIC MATHEMATICAL TAILm NOON;3SEEN;3Ag
1EE51;ARABIC MATHEMATICAL TAILm SAD;3QAF
1EE54;ARABIC MATHEMATICAL TAILm SHEEN
1EE57;ARABIC MATHEMATICAL TAILm KHAH
1EE59;ARABIC MATHEMATICAL TAILm DAD
1EE5B;ARABIC MATHEMATICAL TAILm GHAg
1EE5D;ARABIC MATHEMATICAL TAILm sLESS NOON
1EE5F;ARABIC MATHEMATICAL TAILm sLESS QAF
1EE61;ARABIC MATHEMATICAL STRETCHm BEH;3JEEM
1EE64;ARABIC MATHEMATICAL STRETCHm HEH
1EE67;ARABIC MATHEMATICAL STRETCHm HAH;3TAH;3YEH;3KAF
1EE6C;ARABIC MATHEMATICAL STRETCHm MEEM;3NOON;3SEEN;3Ag;3FEH;3SAD;3QAF
1EE74;ARABIC MATHEMATICAL STRETCHm SHEEN;3TEH;3THEH;3KHAH
1EE79;ARABIC MATHEMATICAL STRETCHm DAD;3ZAH;3GHAg;3sLESS BEH
1EE7E;ARABIC MATHEMATICAL STRETCHm sLESS FEH
1EE80;ARABIC MATHEMATICAL LOOPm ALEF;3BEH;3JEEM;3DAL;3HEH;3WAW;3ZAg;3HAH;3TAH;3YEH
1EE8B;ARABIC MATHEMATICAL LOOPm LAM;3MEEM;3NOON;3SEEN;3Ag;3FEH;3SAD;3QAF;3REH;3SHEEN;3TEH;3THEH
1EE97;ARABIC MATHEMATICAL LOOPm KHAH;3THAL;3DAD;3ZAH;3GHAg
1EEA1;ARABIC MATHEMATICAL r-STRUCK BEH;3JEEM;3DAL
1EEA5;ARABIC MATHEMATICAL r-STRUCK WAW;3ZAg;3HAH;3TAH;3YEH
1EEAB;ARABIC MATHEMATICAL r-STRUCK LAM;3MEEM;3NOON;3SEEN;3Ag;3FEH;3SAD;3QAF;3REH;3SHEEN;3TEH;3THEH
1EEB7;ARABIC MATHEMATICAL r-STRUCK KHAH;3THAL;3DAD;3ZAH;3GHAg
1EEF0;ARABIC MATHEMATICAL OPiATOR MEEM c HAH c TATWEEL;3HAH c DAL
1F000;MAHJONG TILE EAST WgD;2SOUTH WgD;2WEST WgD;2NORTH WgD;2Rm DRAGON;2GREEN DRAGON;2WHITE DRAGON
1F007;MAHJONG TILE ONE OF CHARACTiS;2TWO OF CHARACTiS;2THREE OF CHARACTiS;2FOUR OF CHARACTiS
1F00B;MAHJONG TILE FIVE OF CHARACTiS;2SIX OF CHARACTiS;2SEVEN OF CHARACTiS;2Ef OF CHARACTiS
1F00F;MAHJONG TILE NgE OF CHARACTiS;2ONE OF BAMBOOS;2TWO OF BAMBOOS;2THREE OF BAMBOOS
1F013;MAHJONG TILE FOUR OF BAMBOOS;2FIVE OF BAMBOOS;2SIX OF BAMBOOS;2SEVEN OF BAMBOOS
1F017;MAHJONG TILE Ef OF BAMBOOS;2NgE OF BAMBOOS;2ONE OF CIRCLES;2TWO OF CIRCLES;2THREE OF CIRCLES
1F01C;MAHJONG TILE FOUR OF CIRCLES;2FIVE OF CIRCLES;2SIX OF CIRCLES;2SEVEN OF CIRCLES
1F020;MAHJONG TILE Ef OF CIRCLES;2NgE OF CIRCLES;2PLUM;2ORCHID;2BAMBOO;2CHRYSANTHEMUM;2SPRgG
1F027;MAHJONG TILE SUMMi;2AUTUMN;2WgTi;2JOKi;2BACK
1F030;DOMgO TILE t BACK;2t-00-00;2t-00-01;2t-00-02;2t-00-03;2t-00-04;2t-00-05;2t-00-06;2t-01-00
1F039;DOMgO TILE t-01-01;2t-01-02;2t-01-03;2t-01-04;2t-01-05;2t-01-06;2t-02-00;2t-02-01;2t-02-02
1F042;DOMgO TILE t-02-03;2t-02-04;2t-02-05;2t-02-06;2t-03-00;2t-03-01;2t-03-02;2t-03-03;2t-03-04
1F04B;DOMgO TILE t-03-05;2t-03-06;2t-04-00;2t-04-01;2t-04-02;2t-04-03;2t-04-04;2t-04-05;2t-04-06
1F054;DOMgO TILE t-05-00;2t-05-01;2t-05-02;2t-05-03;2t-05-04;2t-05-05;2t-05-06;2t-06-00;2t-06-01
1F05D;DOMgO TILE t-06-02;2t-06-03;2t-06-04;2t-06-05;2t-06-06;2ViTICAL BACK;2ViTICAL-00-00
1F064;DOMgO TILE ViTICAL-00-01;2ViTICAL-00-02;2ViTICAL-00-03;2ViTICAL-00-04;2ViTICAL-00-05
1F069;DOMgO TILE ViTICAL-00-06;2ViTICAL-01-00;2ViTICAL-01-01;2ViTICAL-01-02;2ViTICAL-01-03
1F06E;DOMgO TILE ViTICAL-01-04;2ViTICAL-01-05;2ViTICAL-01-06;2ViTICAL-02-00;2ViTICAL-02-01
1F073;DOMgO TILE ViTICAL-02-02;2ViTICAL-02-03;2ViTICAL-02-04;2ViTICAL-02-05;2ViTICAL-02-06
1F078;DOMgO TILE ViTICAL-03-00;2ViTICAL-03-01;2ViTICAL-03-02;2ViTICAL-03-03;2ViTICAL-03-04
1F07D;DOMgO TILE ViTICAL-03-05;2ViTICAL-03-06;2ViTICAL-04-00;2ViTICAL-04-01;2ViTICAL-04-02
1F082;DOMgO TILE ViTICAL-04-03;2ViTICAL-04-04;2ViTICAL-04-05;2ViTICAL-04-06;2ViTICAL-05-00
1F087;DOMgO TILE ViTICAL-05-01;2ViTICAL-05-02;2ViTICAL-05-03;2ViTICAL-05-04;2ViTICAL-05-05
1F08C;DOMgO TILE ViTICAL-05-06;2ViTICAL-06-00;2ViTICAL-06-01;2ViTICAL-06-02;2ViTICAL-06-03
1F091;DOMgO TILE ViTICAL-06-04;2ViTICAL-06-05;2ViTICAL-06-06
1F0A0;PLAYgG CARD BACK;2ACE OF SPADES;2TWO OF SPADES;2THREE OF SPADES;2FOUR OF SPADES
1F0A5;PLAYgG CARD FIVE OF SPADES;2SIX OF SPADES;2SEVEN OF SPADES;2Ef OF SPADES;2NgE OF SPADES
1F0AA;PLAYgG CARD TEN OF SPADES;2JACK OF SPADES;2KNf OF SPADES;2QUEEN OF SPADES;2KgG OF SPADES
1F0B1;PLAYgG CARD ACE OF HEARTS;2TWO OF HEARTS;2THREE OF HEARTS;2FOUR OF HEARTS;2FIVE OF HEARTS
1F0B6;PLAYgG CARD SIX OF HEARTS;2SEVEN OF HEARTS;2Ef OF HEARTS;2NgE OF HEARTS;2TEN OF HEARTS
1F0BB;PLAYgG CARD JACK OF HEARTS;2KNf OF HEARTS;2QUEEN OF HEARTS;2KgG OF HEARTS;2Rm JOKi
1F0C1;PLAYgG CARD ACE OF DIAMONDS;2TWO OF DIAMONDS;2THREE OF DIAMONDS;2FOUR OF DIAMONDS
1F0C5;PLAYgG CARD FIVE OF DIAMONDS;2SIX OF DIAMONDS;2SEVEN OF DIAMONDS;2Ef OF DIAMONDS
1F0C9;PLAYgG CARD NgE OF DIAMONDS;2TEN OF DIAMONDS;2JACK OF DIAMONDS;2KNf OF DIAMONDS
1F0CD;PLAYgG CARD QUEEN OF DIAMONDS;2KgG OF DIAMONDS;2z JOKi
1F0D1;PLAYgG CARD ACE OF CLUBS;2TWO OF CLUBS;2THREE OF CLUBS;2FOUR OF CLUBS;2FIVE OF CLUBS
1F0D6;PLAYgG CARD SIX OF CLUBS;2SEVEN OF CLUBS;2Ef OF CLUBS;2NgE OF CLUBS;2TEN OF CLUBS
1F0DB;PLAYgG CARD JACK OF CLUBS;2KNf OF CLUBS;2QUEEN OF CLUBS;2KgG OF CLUBS;2WHITE JOKi;2FOOL
1F0E1;PLAYgG CARD TRUMP-1;2TRUMP-2;2TRUMP-3;2TRUMP-4;2TRUMP-5;2TRUMP-6;2TRUMP-7;2TRUMP-8;2TRUMP-9
1F0EA;PLAYgG CARD TRUMP-10;2TRUMP-11;2TRUMP-12;2TRUMP-13;2TRUMP-14;2TRUMP-15;2TRUMP-16;2TRUMP-17
1F0F2;PLAYgG CARD TRUMP-18;2TRUMP-19;2TRUMP-20;2TRUMP-21
1F100;DIGIT ZiO FULL STOP;2COMMA;1ONE COMMA;1TWO COMMA;1THREE COMMA;1FOUR COMMA;1FIVE COMMA
1F107;DIGIT SIX COMMA;1SEVEN COMMA;1Ef COMMA;1NgE COMMA;DgGBAT CIRCLm SANS-SiIF DIGIT ZiO
1F10C;DgGBAT NEGATIVE CIRCLm SANS-SiIF DIGIT ZiO;CIRCLm ZiO c SLASH;1ANTICLOCKWISE h
1F10F;CIRCLm DOLLAR n c OViLAID BACKSLASH;PARENTHESIZm LATg d a A;4B;4C;4D;4E;4F;4G;4H;4I;4J;4K;4L
1F11C;PARENTHESIZm LATg d a M;4N;4O;4P;4Q;4R;4S;4T;4U;4V;4W;4X;4Y;4Z
1F12A;TORTOISE SHELL BRACKETm LATg d a S;CIRCLm ITALIC LATg d a C;5R;1CD;1WZ;COPYp u
1F130;SQUARm LATg d a A;4B;4C;4D;4E;4F;4G;4H;4I;4J;4K;4L;4M;4N;4O;4P;4Q;4R;4S;4T;4U;4V;4W;4X;4Y;4Z
1F14A;SQUARm HV;1MV;1SD;1SS;1PPV;1WC;NEGATIVE CIRCLm LATg d a A;5B;5C;5D;5E;5F;5G;5H;5I;5J;5K;5L
1F15C;NEGATIVE CIRCLm LATg d a M;5N;5O;5P;5Q;5R;5S;5T;5U;5V;5W;5X;5Y;5Z;RAISm MC n;1MD n;1MR n
1F16D;CIRCLm CC;1C c OViLAID BACKSLASH;1HUMAN FIGURE;NEGATIVE SQUARm LATg d a A;5B;5C;5D;5E;5F;5G
1F177;NEGATIVE SQUARm LATg d a H;5I;5J;5K;5L;5M;5N;5O;5P;5Q;5R;5S;5T;5U;5V;5W;5X;5Y;5Z
1F18A;CROSSm NEGATIVE SQUARm LATg d a P;NEGATIVE SQUARm IC;2PA;2SA;2AB;2WC;SQUARE DJ;SQUARm CL
1F192;SQUARm COOL;1FREE;1ID;1NEW;1NG;1OK;1SOS;1UP c EXCLAMAv MARK;1VS;1THREE D;1SECOND SCREEN
1F19D;SQUARm TWO K;1FOUR K;1Ef K;1FIVE POgT ONE;1SEVEN POgT ONE;1TWENTY-TWO POgT TWO;1SIXTY P
1F1A4;SQUARm ONE HUNDRm TWENTY P;1LATg e a D;1HC;1HDR;1HI-RES;1LOSSLESS;1SHV;1UHD;1VOD;MASK WORK u
1F1E6;REGIONAL gDICATOR u a A;4B;4C;4D;4E;4F;4G;4H;4I;4J;4K;4L;4M;4N;4O;4P;4Q;4R;4S;4T;4U;4V;4W;4X
1F1FE;REGIONAL gDICATOR u a Y;4Z;SQUARE HIRAGANA HOKA;SQUARm KATAKANA KOKO;2SA
1F210;SQUARm CJK UNIFIm IDEOGRAPH-624B;3IDEOGRAPH-5B57;3IDEOGRAPH-53CC;1KATAKANA DE
1F214;SQUARm CJK UNIFIm IDEOGRAPH-4E8C;3IDEOGRAPH-591A;3IDEOGRAPH-89E3;3IDEOGRAPH-5929
1F218;SQUARm CJK UNIFIm IDEOGRAPH-4EA4;3IDEOGRAPH-6620;3IDEOGRAPH-7121;3IDEOGRAPH-6599
1F21C;SQUARm CJK UNIFIm IDEOGRAPH-524D;3IDEOGRAPH-5F8C;3IDEOGRAPH-518D;3IDEOGRAPH-65B0
1F220;SQUARm CJK UNIFIm IDEOGRAPH-521D;3IDEOGRAPH-7D42;3IDEOGRAPH-751F;3IDEOGRAPH-8CA9
1F224;SQUARm CJK UNIFIm IDEOGRAPH-58F0;3IDEOGRAPH-5439;3IDEOGRAPH-6F14;3IDEOGRAPH-6295
1F228;SQUARm CJK UNIFIm IDEOGRAPH-6355;3IDEOGRAPH-4E00;3IDEOGRAPH-4E09;3IDEOGRAPH-904A
1F22C;SQUARm CJK UNIFIm IDEOGRAPH-5DE6;3IDEOGRAPH-4E2D;3IDEOGRAPH-53F3;3IDEOGRAPH-6307
1F230;SQUARm CJK UNIFIm IDEOGRAPH-8D70;3IDEOGRAPH-6253;3IDEOGRAPH-7981;3IDEOGRAPH-7A7A
1F234;SQUARm CJK UNIFIm IDEOGRAPH-5408;3IDEOGRAPH-6E80;3IDEOGRAPH-6709;3IDEOGRAPH-6708
1F238;SQUARm CJK UNIFIm IDEOGRAPH-7533;3IDEOGRAPH-5272;3IDEOGRAPH-55B6;3IDEOGRAPH-914D
1F240;TORTOISE SHELL BRACKETm CJK UNIFIm IDEOGRAPH-672C;5IDEOGRAPH-4E09;5IDEOGRAPH-4E8C
1F243;TORTOISE SHELL BRACKETm CJK UNIFIm IDEOGRAPH-5B89;5IDEOGRAPH-70B9;5IDEOGRAPH-6253
1F246;TORTOISE SHELL BRACKETm CJK UNIFIm IDEOGRAPH-76D7;5IDEOGRAPH-52DD;5IDEOGRAPH-6557
1F250;CIRCLm IDEOGRAPH ADVANTAGE;2ACCEPT
1F260;ROUNDm u FOR FU;3LU;3SHOU;3XI;3SHUANGXI;3CAI
1F300;CYCLONE;FOGGY;CLOSm UMBRELLA;Nf c STARS;SUNRISE OVi MOUNTAgS;SUNRISE;CITYSCAPE AT DUSK
1F307;SUNSET OVi BUILDgGS;RAgBOW;BRIDGE AT Nf;WATi WAVE;VOLCANO;MILKY WAY
1F30D;EARTH GLOBE EUROPE-AFRICA;2AMiICAS;2ASIA-AUSTRALIA;GLOBE c MiIDIANS;NEW MOON u
1F312;WAXgG CRESCENT MOON u;FIRST QUARTi MOON u;WAXgG GIBBOUS MOON u;FULL MOON u
1F316;WANgG GIBBOUS MOON u;LAST QUARTi MOON u;WANgG CRESCENT MOON u;CRESCENT MOON;NEW MOON c FACE
1F31B;FIRST QUARTi MOON c FACE;LAST QUARTi MOON c FACE;FULL MOON c FACE;SUN c FACE;GLOWgG STAR
1F320;SHOOTgG STAR;THiMOMETi;z DROPLET;WHITE SUN;2c e CLOUD;2BEHgD CLOUD;4c RAg;CLOUD c RAg;2SNOW
1F329;CLOUD c LfNgG;2TORNADO;FOG;WgD BLOWgG FACE;HOT DOG;TACO;BURRITO;CHESTNUT;SEmLgG
1F332;EViGREEN TREE;DECIDUOUS TREE;PALM TREE;CACTUS;HOT PEPPi;TULIP;CHiRY BLOSSOM;ROSE;HIBISCUS
1F33B;SUNFLOWi;BLOSSOM;EAR OF MAIZE;2RICE;HiB;FOUR LEAF CLOVi;MAPLE LEAF;FALLEN LEAF
1F343;LEAF FLUTTigG g WgD;MUSHROOM;TOMATO;AUBiGgE;GRAPES;MELON;WATiMELON;TANGigE;LEMON;BANANA
1F34D;PgEAPPLE;Rm APPLE;GREEN APPLE;PEAR;PEACH;CHiRIES;STRAWBiRY;HAMBURGi;SLICE OF PIZZA
1F356;MEAT ON BONE;POULTRY LEG;RICE CRACKi;1BALL;COOKm RICE;CURRY l RICE;STEAMgG BOWL;SPAGHETTI
1F35E;BREAD;FRENCH FRIES;ROASTm SWEET POTATO;DANGO;ODEN;SUSHI;FRIm SHRIMP;FISH CAKE c SWIRL DEn
1F366;SOFT ICE CREAM;SHAVm ICE;ICE CREAM;DOUGHNUT;COOKIE;CHOCOLATE BAR;ClY;LOLLIPOP;CUSTARD
1F36F;HONEY POT;SHORTCAKE;BENTO BOX;POT OF FOOD;COOKgG;FORK l KNIFE;TEACUP cOUT HlLE
1F376;SAKE BOTTLE l CUP;WgE GLASS;COCKTAIL GLASS;TROPICAL DRgK;BEi MUG;CLgKgG BEi MUGS;BABY BOTTLE
1F37D;FORK l KNIFE c PLATE;BOTTLE c POPPgG CORK;POPCORN;RIBBON;WRAPPm PRESENT;BIRTHDAY CAKE
1F383;JACK-O-LANTiN;CHRISTMAS TREE;FATHi CHRISTMAS;FIREWORKS;FIREWORK SPARKLi;BALLOON;PARTY POPPi
1F38A;CONFETTI BALL;TANABATA TREE;CROSSm FLAGS;PgE DECORAv;JAPANESE DOLLS;CARP STREAMi;WgD CHIME
1F391;MOON VIEWgG CiEMONY;SCHOOL SATCHEL;GRADUAv CAP;HEART c TIP ON THE p;BOUQUET OF FLOWiS
1F396;MILITARY MmAL;REMgDi RIBBON;MUSICAL KEYBOARD c JACKS;STUDIO MICROPHONE;LEVEL SLIDi
1F39B;CONTROL KNOBS;BEAMm ASCENDgG MUSICAL NOTES;1DESCENDgG MUSICAL NOTES;FILM FRAMES
1F39F;ADMISSION TICKETS;CAROUSEL HORSE;FiRIS WHEEL;ROLLi COASTi;FISHgG POLE l FISH;MICROPHONE
1F3A5;MOVIE CAMiA;CgEMA;HEADPHONE;ARTIST PALETTE;TOP HAT;CIRCUS TENT;TICKET;CLAPPi BOARD
1F3AD;PijgG ARTS;VIDEO GAME;DIRECT HIT;SLOT MACHgE;BILLIARDS;GAME DIE;BOWLgG;FLOWi PLAYgG CARDS
1F3B5;MUSICAL NOTE;MULTIPLE MUSICAL NOTES;SAXOPHONE;GUITAR;MUSICAL KEYBOARD;TRUMPET;VIOLg
1F3BC;MUSICAL SCORE;RUNNgG SHIRT c SASH;TENNIS RACQUET l BALL;SKI l SKI BOOT;BASKETBALL l HOOP
1F3C1;CHEQUim FLAG;SNOWBOARDi;RUNNi;SURFi;SPORTS MmAL;TROPHY;HORSE RACgG;AMiICAN FOOTBALL
1F3C9;RUGBY FOOTBALL;SWIMMi;WEf LIFTi;GOLFi;RACgG MOTORCYCLE;1CAR;CRICKET BAT l BALL;VOLLEYBALL
1F3D1;FIELD HOCKEY STICK l BALL;ICE HOCKEY STICK l PUCK;TABLE TENNIS PADDLE l BALL
1F3D4;SNOW CAPPm MOUNTAg;CAMPgG;BEACH c UMBRELLA;BUILDgG CONSTRUCv;HOUSE BUILDgGS;CITYSCAPE
1F3DA;DiELICT HOUSE BUILDgG;CLASSICAL BUILDgG;DESiT;1ISLl;NAvAL PARK;STADIUM;HOUSE BUILDgG
1F3E1;HOUSE c GARDEN;OFFICE BUILDgG;JAPANESE POST OFFICE;EUROPEAN POST OFFICE;HOSPITAL;BANK
1F3E7;AUTOMATm TELLi MACHgE;HOTEL;LOVE HOTEL;CONVENIENCE STORE;SCHOOL;DEPARTMENT STORE;FACTORY
1F3EE;IZAKAYA LANTiN;JAPANESE CASTLE;EUROPEAN CASTLE;WHITE PENNANT;z PENNANT;WAVgG WHITE FLAG
1F3F4;WAVgG z FLAG;ROSETTE;z ROSETTE;LABEL;BADMgTON RACQUET l SHUTTLECOCK;BOW l h;AMPHORA
1F3FB;EMOJI MODIFIi FITZPATRICK TYPE-1-2;3TYPE-3;3TYPE-4;3TYPE-5;3TYPE-6;RAT;MOUSE;OX;WATi BUFFALO
1F404;COW;TIGi;LEOPARD;RABBIT;CAT;DRAGON;CROCODILE;WHALE;SNAIL;SNAKE;HORSE;RAM;GOAT;SHEEP;MONKEY
1F413;ROOSTi;CHICKEN;DOG;PIG;BOAR;ELEPHANT;OCTOPUS;SPIRAL SHELL;BUG;ANT;HONEYBEE;LADY BEETLE;FISH
1F420;TROPICAL FISH;BLOWFISH;TURTLE;HATCHgG CHICK;BABY CHICK;FRONT-FACgG BABY CHICK;BIRD;PENGUg
1F428;KOALA;POODLE;DROMmARY CAMEL;BACTRIAN CAMEL;DOLPHg;MOUSE FACE;COW FACE;TIGi FACE;RABBIT FACE
1F431;CAT FACE;DRAGON FACE;SPOUTgG WHALE;HORSE FACE;MONKEY FACE;DOG FACE;PIG FACE;FROG FACE
1F439;HAMSTi FACE;WOLF FACE;BEAR FACE;PlA FACE;PIG NOSE;PAW PRgTS;CHIPMUNK;EYES;EYE;EAR;NOSE;MOUTH
1F445;TONGUE;WHITE UP POgTgG BACKHl gDEX;1DOWN POgTgG BACKHl gDEX;1p POgTgG BACKHl gDEX
1F449;WHITE Rf POgTgG BACKHl gDEX;FISTm Hl n;WAVgG Hl n;OK Hl n;THUMBS UP n;1DOWN n;CLAPPgG HlS n
1F450;OPEN HlS n;CROWN;WOMANS HAT;EYEGLASSES;NECKTIE;T-SHIRT;JEANS;DRESS;KIMONO;BIKgI
1F45A;WOMANS CLOTHES;PURSE;HlBAG;POUCH;MANS SHOE;ATHLETIC SHOE;HIGH-HEELm SHOE;WOMANS SlAL;1BOOTS
1F463;FOOTPRgTS;BUST g SILHOUETTE;BUSTS g SILHOUETTE;BOY;GIRL;MAN;WOMAN;FAMILY
1F46B;MAN l WOMAN HOLDgG HlS;TWO MEN HOLDgG HlS;1WOMEN HOLDgG HlS;POLICE OFFICi;WOMAN c BUNNY EARS
1F470;BRIDE c VEIL;PiSON c BLOND HAIR;MAN c GUA PI MAO;2TURBAN;OLDi MAN;1WOMAN;BABY
1F477;CONSTRUCv WORKi;PRgCESS;JAPANESE OGRE;1GOBLg;GHOST;BABY ANGEL;EXTRATiRESTRIAL ALIEN
1F47E;ALIEN MONSTi;IMP;SKULL;gjAv DESK PiSON;GUARDSMAN;DANCi;LIPSTICK;NAIL POLISH;FACE MASSAGE
1F487;HAIRCUT;BARBi POLE;SYRgGE;PILL;KISS MARK;LOVE a;RgG;GEM STONE;KISS;BOUQUET;COUPLE c HEART
1F492;WmDgG;BEATgG HEART;BROKEN HEART;TWO HEARTS;SPARKLgG HEART;GROWgG HEART;HEART c h;BLUE HEART
1F49A;GREEN HEART;YELLOW HEART;PURPLE HEART;HEART c RIBBON;REVOLVgG HEARTS;HEART DECORAv
1F4A0;DIAMOND SHAPE c A s gSIDE;ELECTRIC Lf BULB;ANGi u;BOMB;SLEEPgG u;COLLISION u
1F4A6;SPLASHgG SWEAT u;DROPLET;DASH u;PILE OF POO;FLEXm BICEPS;DIZZY u;SPEECH BALLOON
1F4AD;THOUGHT BALLOON;WHITE FLOWi;HUNDRm POgTS u;MONEY BAG;CURRENCY EXCHANGE;HEAVY DOLLAR n
1F4B3;CRmIT CARD;BANKNOTE c YEN n;2DOLLAR n;2EURO n;2POUND n;MONEY c WgGS
1F4B9;CHART c UPk TREND l YEN n;SEAT;PiSONAL COMPUTi;BRIEFCASE;MgIDISC;FLOPPY DISK;OPTICAL DISC
1F4C0;DVD;FILE FOLDi;OPEN FILE FOLDi;PAGE c CURL;1FACgG UP;CALENDAR;TEAR-OFF CALENDAR;CARD gDEX
1F4C8;CHART c UPk TREND;2DOWNk TREND;BAR CHART;CLIPBOARD;PUSHPg;ROUND PUSHPg;PAPiCLIP;STRAf RULi
1F4D0;TRIANGULAR RULi;BOOKMARK TABS;LmGi;NOTEBOOK;1c DECORATIVE COVi;CLOSm BOOK;OPEN BOOK
1F4D7;GREEN BOOK;BLUE BOOK;ORANGE BOOK;BOOKS;NAME BADGE;SCROLL;MEMO;TELEPHONE RECEIVi;PAGi
1F4E0;FAX MACHgE;SATELLITE ANTENNA;PUBLIC ADDRESS LOUDSPEAKi;CHEigG MEGAPHONE;OUTBOX TRAY
1F4E5;gBOX TRAY;PACKAGE;E-MAIL u;gCOMgG ENVELOPE;ENVELOPE c DOWNk h q;CLOSm MAILBOX c LOWim FLAG
1F4EB;CLOSm MAILBOX c RAISm FLAG;OPEN MAILBOX c RAISm FLAG;3LOWim FLAG;POSTBOX;POSTAL HORN
1F4F0;NEWSPAPi;MOBILE PHONE;2c Rfk h AT p;VIBRAv MODE;MOBILE PHONE OFF;NO MOBILE PHONES
1F4F6;ANTENNA c BARS;CAMiA;1c FLASH;VIDEO CAMiA;TELEVISION;RADIO;VIDEOCASSETTE;FILM PROJECTOR
1F4FE;PORTABLE STiEO;PRAYi BEADS;TWISTm Rfk hS;CLOCKWISE Rfk l pk OPEN CIRCLE hS
1F502;CLOCKWISE Rfk l pk OPEN CIRCLE hS c CIRCLm ONE OViLAY;1DOWNk l UPk OPEN CIRCLE hS
1F504;ANTICLOCKWISE DOWNk l UPk OPEN CIRCLE hS;LOW BRfNESS u;HIGH BRfNESS u;SPEAKi c CANCELLAv y
1F508;SPEAKi;1c ONE SOUND WAVE;2THREE SOUND WAVES;BATTiY;ELECTRIC PLUG;p-POgTgG MAGNIFYgG GLASS
1F50E;Rf-POgTgG MAGNIFYgG GLASS;LOCK c gK PEN;CLOSm LOCK c KEY;KEY;LOCK;OPEN LOCK;BELL
1F515;BELL c CANCELLAv y;BOOKMARK;LgK u;RADIO BUTTON;BACK c pk h q;END c pk h q
1F51B;ON c EXCLAMAv MARK c p Rf h q;SOON c Rfk h q;TOP c UPk h q;NO ONE UNDi EfEEN u;KEYCAP TEN
1F520;gPUT u FOR LATg d aS;4e aS;3NUMBiS;3uS;3LATg aS;FIRE;ELECTRIC TORCH;WRENCH;HAMMi;NUT l BOLT
1F52A;HOCHO;PISTOL;MICROSCOPE;TELESCOPE;CRYSTAL BALL;SIX POgTm STAR c MIDDLE s
1F530;JAPANESE u FOR BEGgNi;TRIDENT EMBLEM;z SQUARE BUTTON;WHITE SQUARE BUTTON;LARGE Rm CIRCLE
1F535;LARGE BLUE CIRCLE;1ORANGE DIAMOND;1BLUE DIAMOND;e ORANGE DIAMOND;1BLUE DIAMOND
1F53A;UP-POgTgG Rm w;DOWN-POgTgG Rm w;UP-POgTgG e Rm w;DOWN-POgTgG e Rm w
1F53E;LOWi Rf SHADOWm WHITE CIRCLE;UPPi Rf SHADOWm WHITE CIRCLE;CIRCLm CROSS POMMEE
1F541;CROSS POMMEE c HALF-CIRCLE x;1POMMEE;NOTCHm p SEMICIRCLE c THREE sS
1F544;NOTCHm Rf SEMICIRCLE c THREE sS;u FOR MARKS CHAPTi;WHITE LATg CROSS;HEAVY LATg CROSS
1F548;CELTIC CROSS;OM u;DOVE OF PEACE;KAABA;MOSQUE;SYNAGOGUE;MENORAH c NgE BRANCHES
1F54F;BOWL OF HYGIEIA;CLOCK FACE ONE OCLOCK;2TWO OCLOCK;2THREE OCLOCK;2FOUR OCLOCK;2FIVE OCLOCK
1F555;CLOCK FACE SIX OCLOCK;2SEVEN OCLOCK;2Ef OCLOCK;2NgE OCLOCK;2TEN OCLOCK;2ELEVEN OCLOCK
1F55B;CLOCK FACE TWELVE OCLOCK;2ONE-THIRTY;2TWO-THIRTY;2THREE-THIRTY;2FOUR-THIRTY;2FIVE-THIRTY
1F561;CLOCK FACE SIX-THIRTY;2SEVEN-THIRTY;2Ef-THIRTY;2NgE-THIRTY;2TEN-THIRTY;2ELEVEN-THIRTY
1F567;CLOCK FACE TWELVE-THIRTY;Rf SPEAKi;2c ONE SOUND WAVE;3THREE SOUND WAVES;BULLHORN
1F56C;BULLHORN c SOUND WAVES;RgGgG BELL;BOOK;ClLE;MANTELPIECE CLOCK;z SKULL l CROSSBONES;NO PIRACY
1F573;HOLE;MAN g BUSgESS SUIT LEVITATgG;SLEUTH OR SPY;DARK SUNGLASSES;SPIDi;1WEB;JOYSTICK
1F57A;MAN DANCgG;p Hl TELEPHONE RECEIVi;TELEPHONE RECEIVi c PAGE;Rf Hl TELEPHONE RECEIVi
1F57E;WHITE TOUCHTONE TELEPHONE;z TOUCHTONE TELEPHONE;TELEPHONE ON TOP OF MODEM
1F581;CLAMSHELL MOBILE PHONE;BACK OF ENVELOPE;STAMPm ENVELOPE;ENVELOPE c LfNgG;FLYgG ENVELOPE
1F586;PEN OVi STAMPm ENVELOPE;LgKm PAPiCLIPS;z PUSHPg;LOWi p PENCIL;2BALLPOgT PEN;2FOUNTAg PEN
1F58C;LOWi p PAgTBRUSH;2CRAYON;p WRITgG Hl;TURNm OK Hl n;RAISm Hl c FgGiS SPLAYm
1F591;REViSm RAISm Hl c FgGiS SPLAYm;1THUMBS UP n;2DOWN n;1VICTORY Hl;1Hl c MIDDLE FgGi EXTENDm
1F596;RAISm Hl c PART BETWEEN MIDDLE l RgG FgGiS;WHITE DOWN POgTgG p Hl gDEX
1F598;SIDEWAYS WHITE p POgTgG gDEX;2Rf POgTgG gDEX;1z p POgTgG gDEX;2Rf POgTgG gDEX
1F59C;z p POgTgG BACKHl gDEX;1Rf POgTgG BACKHl gDEX;SIDEWAYS WHITE UP POgTgG gDEX
1F59F;SIDEWAYS WHITE DOWN POgTgG gDEX;1z UP POgTgG gDEX;2DOWN POgTgG gDEX;z UP POgTgG BACKHl gDEX
1F5A3;z DOWN POgTgG BACKHl gDEX;1HEART;DESKTOP COMPUTi;KEYBOARD l MOUSE;THREE NETWORKm COMPUTiS
1F5A8;PRgTi;POCKET CALCULATOR;z HARD SHELL FLOPPY DISK;WHITE HARD SHELL FLOPPY DISK
1F5AC;SOFT SHELL FLOPPY DISK;TAPE CARTRIDGE;WIRm KEYBOARD;ONE BUTTON MOUSE;TWO BUTTON MOUSE
1F5B1;THREE BUTTON MOUSE;TRACKBALL;OLD PiSONAL COMPUTi;HARD DISK;SCREEN;PRgTi ICON;FAX ICON
1F5B8;OPTICAL DISC ICON;DOCUMENT c TEXT;3l PICTURE;2PICTURE;FRAME c PICTURE;2TILES;2AN X;z FOLDi
1F5C0;FOLDi;OPEN FOLDi;CARD gDEX DIVIDiS;1FILE BOX;FILE CABgET;EMPTY NOTE;2PAGE;2PAD;NOTE;1PAGE
1F5CA;NOTE PAD;EMPTY DOCUMENT;1PAGE;1PAGES;DOCUMENT;PAGE;PAGES;WASTEBASKET;SPIRAL NOTE PAD
1F5D3;SPIRAL CALENDAR PAD;DESKTOP WgDOW;MgIMIZE;MAXIMIZE;OViLAP;CLOCKWISE Rf l p SEMICIRCLE hS
1F5D9;CANCELLAv X;gCREASE FONT SIZE u;DECREASE FONT SIZE u;COMPRESSION;OLD KEY;ROLLm-UP NEWSPAPi
1F5DF;PAGE c CIRCLm TEXT;STOCK CHART;DAGGi KNIFE;LIPS;SPEAKgG HEAD g SILHOUETTE;THREE RAYS q;2x;2p
1F5E7;THREE RAYS Rf;p SPEECH BUBBLE;Rf SPEECH BUBBLE;TWO SPEECH BUBBLES;THREE SPEECH BUBBLES
1F5EC;p THOUGHT BUBBLE;Rf THOUGHT BUBBLE;p ANGi BUBBLE;Rf ANGi BUBBLE;MOOD BUBBLE
1F5F1;LfNgG MOOD BUBBLE;1MOOD;BALLOT BOX c BALLOT;1SCRIPT X;1BOX c SCRIPT X;1BOLD SCRIPT X
1F5F7;BALLOT BOX c BOLD SCRIPT X;Lf CHECK MARK;BALLOT BOX c BOLD CHECK;WORLD MAP;MOUNT FUJI
1F5FC;TOKYO TOWi;STATUE OF LIBiTY;SILHOUETTE OF JAPAN;MOYAI;GRgNgG FACE;2c SMILgG EYES
1F602;FACE c TEARS OF JOY;SMILgG FACE c OPEN MOUTH;5l SMILgG EYES;6COLD SWEAT;6TfLY-CLOSm EYES
1F607;SMILgG FACE c HALO;3HORNS;WgKgG FACE;SMILgG FACE c SMILgG EYES;FACE SAVOURgG DELICIOUS FOOD
1F60C;RELIEVm FACE;SMILgG FACE c HEART-SHAPm EYES;3SUNGLASSES;SMIRKgG FACE;NEUTRAL FACE
1F611;EXPRESSIONLESS FACE;UNAMUSm FACE;FACE c COLD SWEAT;PENSIVE FACE;CONFUSm FACE;CONFOUNDm FACE
1F617;KISSgG FACE;FACE THROWgG A KISS;KISSgG FACE c SMILgG EYES;3CLOSm EYES
1F61B;FACE c STUCK-OUT TONGUE;4l WgKgG EYE;5TfLY-CLOSm EYES;DISAPPOgTm FACE;WORRIm FACE;ANGRY FACE
1F621;POUTgG FACE;CRYgG FACE;PiSEVigG FACE;FACE c LOOK OF TRIUMPH;DISAPPOgTm BUT RELIEVm FACE
1F626;FROWNgG FACE c OPEN MOUTH;ANGUISHm FACE;FEARFUL FACE;WEARY FACE;SLEEPY FACE;TIRm FACE
1F62C;GRIMACgG FACE;LOUDLY CRYgG FACE;FACE c OPEN MOUTH;HUSHm FACE;FACE c OPEN MOUTH l COLD SWEAT
1F631;FACE SCREAMgG g FEAR;ASTONISHm FACE;FLUSHm FACE;SLEEPgG FACE;DIZZY FACE;FACE cOUT MOUTH
1F637;FACE c MmICAL MASK;GRgNgG CAT FACE c SMILgG EYES;CAT FACE c TEARS OF JOY
1F63A;SMILgG CAT FACE c OPEN MOUTH;4HEART-SHAPm EYES;CAT FACE c WRY SMILE
1F63D;KISSgG CAT FACE c CLOSm EYES;POUTgG CAT FACE;CRYgG CAT FACE;WEARY CAT FACE
1F641;SLfLY FROWNgG FACE;1SMILgG FACE;UPSIDE-DOWN FACE;FACE c ROLLgG EYES;2NO GOOD GESTURE
1F646;FACE c OK GESTURE;PiSON BOWgG DEEPLY;SEE-NO-EVIL MONKEY;HEAR-NO-EVIL MONKEY
1F64A;SPEAK-NO-EVIL MONKEY;HAPPY PiSON RAISgG ONE Hl;PiSON RAISgG BOTH HlS g CELEBRAv;1FROWNgG
1F64E;PiSON c POUTgG FACE;2FOLDm HlS;NORTH WEST POgTgG LEAF;SOUTH WEST POgTgG LEAF
1F652;NORTH EAST POgTgG LEAF;SOUTH EAST POgTgG LEAF;TURNm NORTH WEST POgTgG LEAF
1F655;TURNm SOUTH WEST POgTgG LEAF;1NORTH EAST POgTgG LEAF;1SOUTH EAST POgTgG LEAF
1F658;NORTH WEST POgTgG VgE LEAF;SOUTH WEST POgTgG VgE LEAF;NORTH EAST POgTgG VgE LEAF
1F65B;SOUTH EAST POgTgG VgE LEAF;HEAVY NORTH WEST POgTgG VgE LEAF;1SOUTH WEST POgTgG VgE LEAF
1F65E;HEAVY NORTH EAST POgTgG VgE LEAF;1SOUTH EAST POgTgG VgE LEAF;NORTH WEST POgTgG BUD
1F661;SOUTH WEST POgTgG BUD;NORTH EAST POgTgG BUD;SOUTH EAST POgTgG BUD
1F664;HEAVY NORTH WEST POgTgG BUD;1SOUTH WEST POgTgG BUD;1NORTH EAST POgTgG BUD
1F667;HEAVY SOUTH EAST POgTgG BUD;HOLLOW QUILT SQUARE ORNAMENT;4g z SQUARE
1F66A;SOLID QUILT SQUARE ORNAMENT;4g z SQUARE;pk ROCKET;UPk ROCKET;Rfk ROCKET;DOWNk ROCKET
1F670;SCRIPT LIGATURE ET ORNAMENT;HEAVY SCRIPT LIGATURE ET ORNAMENT;LIGATURE OPEN ET ORNAMENT
1F673;HEAVY LIGATURE OPEN ET ORNAMENT;1AMPiSl ORNAMENT;SWASH AMPiSl ORNAMENT
1F676;SANS-SiIF HEAVY r TURNm COMMA QUOTAv MARK ORNAMENT;3COMMA QUOTAv MARK ORNAMENT
1F678;SANS-SiIF HEAVY LOW r COMMA QUOTAv MARK ORNAMENT;HEAVY gTiROBANG ORNAMENT
1F67A;SANS-SiIF gTiROBANG ORNAMENT;HEAVY SANS-SiIF gTiROBANG ORNAMENT;ViY HEAVY SOLIDUS
1F67D;ViY HEAVY REViSE SOLIDUS;CHECKi BOARD;REViSE CHECKi BOARD;ROCKET;HELICOPTi;STEAM LOCOMOTIVE
1F683;RAILWAY CAR;HIGH-SPEm TRAg;2c BULLET NOSE;TRAg;METRO;Lf RAIL;STAv;TRAM;1CAR;BUS;ONCOMgG BUS
1F68E;TROLLEYBUS;BUS STOP;MgIBUS;AMBULANCE;FIRE ENGgE;POLICE CAR;ONCOMgG POLICE CAR;TAXI
1F696;ONCOMgG TAXI;AUTOMOBILE;ONCOMgG AUTOMOBILE;RECREAvAL VEHICLE;DELIViY TRUCK;ARTICULATm LORRY
1F69C;TRACTOR;MONORAIL;MOUNTAg RAILWAY;SUSPENSION RAILWAY;MOUNTAg CABLEWAY;AiIAL TRAMWAY;SHIP
1F6A3;ROWBOAT;SPEmBOAT;t TRAFFIC Lf;ViTICAL TRAFFIC Lf;CONSTRUCv n;POLICE CARS REVOLVgG Lf
1F6A9;TRIANGULAR FLAG ON POST;DOOR;NO ENTRY n;SMOKgG u;NO SMOKgG u;PUT LITTi g ITS PLACE u
1F6AF;DO NOT LITTi u;POTABLE WATi u;NON-POTABLE WATi u;BICYCLE;NO BICYCLES;BICYCLIST
1F6B5;MOUNTAg BICYCLIST;PmESTRIAN;NO PmESTRIANS;CHILDREN CROSSgG;MENS u;WOMENS u;RESTROOM;BABY u
1F6BD;TOILET;WATi CLOSET;SHOWi;BATH;BATHTUB;PASSPORT CONTROL;CUSTOMS;BAGGAGE CLAIM;p LUGGAGE
1F6C6;w c ROUNDm CORNiS;PROHIBITm n;CIRCLm gjAv SOURCE;BOYS u;GIRLS u;COUCH l LAMP
1F6CC;SLEEPgG ACCOMMODAv;SHOPPgG BAGS;BELLHOP BELL;Bm;PLACE OF WORSHIP;OCTAGONAL n;SHOPPgG TROLLEY
1F6D3;STUPA;PAGODA;HgDU TEMPLE;HUT;ELEVATOR
1F6DD;PLAYGROUND SLIDE;WHEEL;RgG BUOY;HAMMi l WRENCH;SHIELD;OIL DRUM;MOTORWAY;RAILWAY TRACK
1F6E5;MOTOR BOAT;UP-POgTgG MILITARY AIRPLANE;1AIRPLANE;1e AIRPLANE;e AIRPLANE
1F6EA;NORTHEAST-POgTgG AIRPLANE;AIRPLANE DEPARTURE;1ARRIVgG
1F6F0;SATELLITE;ONCOMgG FIRE ENGgE;DIESEL LOCOMOTIVE;PASSENGi SHIP;SCOOTi;MOTOR SCOOTi;CANOE;SLm
1F6F8;FLYgG SAUCi;SKATEBOARD;AUTO RICKSHAW;PICKUP TRUCK;ROLLi SKATE
1F700;ALCHEMICAL u FOR QUgTESSENCE;3AIR;3FIRE;3EARTH;3WATi;3AQUAFORTIS;3AQUA REGIA;4REGIA-2;4VITAE
1F709;ALCHEMICAL u FOR AQUA VITAE-2;3VgEGAR;3VgEGAR-2;3VgEGAR-3;3SULFUR;3PHILOSOPHiS SULFUR
1F70F;ALCHEMICAL u FOR z SULFUR;3MiCURY SUBLIMATE;4SUBLIMATE-2;4SUBLIMATE-3;3CgNABAR;3SALT;3NITRE
1F716;ALCHEMICAL u FOR VITRIOL;3VITRIOL-2;3ROCK SALT;4SALT-2;3GOLD;3SILVi;3IRON ORE;4ORE-2
1F71E;ALCHEMICAL u FOR CROCUS OF IRON;3REGULUS OF IRON;3COPPi ORE;3IRON-COPPi ORE
1F722;ALCHEMICAL u FOR SUBLIMATE OF COPPi;3CROCUS OF COPPi;5COPPi-2;3COPPi ANTIMONIATE
1F726;ALCHEMICAL u FOR SALT OF COPPi ANTIMONIATE;3SUBLIMATE OF SALT OF COPPi;3ViDIGRIS;3Tg ORE
1F72A;ALCHEMICAL u FOR LEAD ORE;3ANTIMONY ORE;3SUBLIMATE OF ANTIMONY;3SALT OF ANTIMONY
1F72E;ALCHEMICAL u FOR SUBLIMATE OF SALT OF ANTIMONY;3VgEGAR OF ANTIMONY;3REGULUS OF ANTIMONY
1F731;ALCHEMICAL u FOR REGULUS OF ANTIMONY-2;3REGULUS;3REGULUS-2;3REGULUS-3;3REGULUS-4;3ALKALI
1F737;ALCHEMICAL u FOR ALKALI-2;3MARCASITE;3SAL-AMMONIAC;3ARSENIC;3REALGAR;3REALGAR-2;3AURIPIGMENT
1F73E;ALCHEMICAL u FOR BISMUTH ORE;3TARTAR;3TARTAR-2;3QUICK LIME;3BORAX;3BORAX-2;3BORAX-3;3ALUM
1F746;ALCHEMICAL u FOR OIL;3SPIRIT;3TgCTURE;3GUM;3WAX;3POWDi;3CALX;3TUTTY;3CAPUT MORTUUM
1F74F;ALCHEMICAL u FOR SCEPTi OF JOVE;3CADUCEUS;3TRIDENT;3STARRm TRIDENT;3LODESTONE;3SOAP;3URgE
1F756;ALCHEMICAL u FOR HORSE DUNG;3ASHES;3POT ASHES;3BRICK;3POWDim BRICK;3AMALGAM
1F75C;ALCHEMICAL u FOR STRATUM SUPi STRATUM;5STRATUM-2;3SUBLIMAv;3PRECIPITATE;3DISTILL;3DISSOLVE
1F762;ALCHEMICAL u FOR DISSOLVE-2;3PURIFY;3PUTREFACv;3CRUCIBLE;3CRUCIBLE-2;3CRUCIBLE-3;3CRUCIBLE-4
1F769;ALCHEMICAL u FOR CRUCIBLE-5;3ALEMBIC;3BATH OF MARY;5VAPOURS;3RETORT;3HOUR;3Nf;3DAY-Nf;3MONTH
1F772;ALCHEMICAL u FOR HALF DRAM;4OUNCE
1F780;z p-POgTgG ISOSCELES Rf w;1UP-POgTgG ISOSCELES Rf w;1Rf-POgTgG ISOSCELES Rf w
1F783;z DOWN-POgTgG ISOSCELES Rf w;1SLfLY e CIRCLE;MmIUM BOLD WHITE CIRCLE;BOLD WHITE CIRCLE
1F787;HEAVY WHITE CIRCLE;ViY HEAVY WHITE CIRCLE;EXTREMELY HEAVY WHITE CIRCLE
1F78A;WHITE CIRCLE CONTAggG z e CIRCLE;ROUND TARGET;z TgY SQUARE;1SLfLY e SQUARE;Lf WHITE SQUARE
1F78F;MmIUM WHITE SQUARE;BOLD WHITE SQUARE;HEAVY WHITE SQUARE;ViY HEAVY WHITE SQUARE
1F793;EXTREMELY HEAVY WHITE SQUARE;WHITE SQUARE CONTAggG z ViY e SQUARE;4MmIUM SQUARE
1F796;SQUARE TARGET;z TgY DIAMOND;1ViY e DIAMOND;1MmIUM e DIAMOND
1F79A;WHITE DIAMOND CONTAggG z ViY e DIAMOND;4MmIUM DIAMOND;DIAMOND TARGET;z TgY LOZENGE
1F79E;z ViY e LOZENGE;1MmIUM e LOZENGE;WHITE LOZENGE CONTAggG z e LOZENGE;THg GREEK CROSS
1F7A2;Lf GREEK CROSS;MmIUM GREEK CROSS;BOLD GREEK CROSS;ViY BOLD GREEK CROSS;1HEAVY GREEK CROSS
1F7A7;EXTREMELY HEAVY GREEK CROSS;THg SALTIRE;Lf SALTIRE;MmIUM SALTIRE;BOLD SALTIRE;HEAVY SALTIRE
1F7AD;ViY HEAVY SALTIRE;EXTREMELY HEAVY SALTIRE;Lf FIVE SPOKm ASTiISK;MmIUM FIVE SPOKm ASTiISK
1F7B1;BOLD FIVE SPOKm ASTiISK;HEAVY FIVE SPOKm ASTiISK;ViY HEAVY FIVE SPOKm ASTiISK
1F7B4;EXTREMELY HEAVY FIVE SPOKm ASTiISK;Lf SIX SPOKm ASTiISK;MmIUM SIX SPOKm ASTiISK
1F7B7;BOLD SIX SPOKm ASTiISK;HEAVY SIX SPOKm ASTiISK;ViY HEAVY SIX SPOKm ASTiISK
1F7BA;EXTREMELY HEAVY SIX SPOKm ASTiISK;Lf Ef SPOKm ASTiISK;MmIUM Ef SPOKm ASTiISK
1F7BD;BOLD Ef SPOKm ASTiISK;HEAVY Ef SPOKm ASTiISK;ViY HEAVY Ef SPOKm ASTiISK
1F7C0;Lf THREE POgTm z STAR;MmIUM THREE POgTm z STAR;THREE POgTm z STAR
1F7C3;MmIUM THREE POgTm PgWHEEL STAR;Lf FOUR POgTm z STAR;MmIUM FOUR POgTm z STAR
1F7C6;FOUR POgTm z STAR;MmIUM FOUR POgTm PgWHEEL STAR;REViSE Lf FOUR POgTm PgWHEEL STAR
1F7C9;Lf FIVE POgTm z STAR;HEAVY FIVE POgTm z STAR;MmIUM SIX POgTm z STAR;HEAVY SIX POgTm z STAR
1F7CD;SIX POgTm PgWHEEL STAR;MmIUM Ef POgTm z STAR;HEAVY Ef POgTm z STAR;ViY HEAVY Ef POgTm z STAR
1F7D1;HEAVY Ef POgTm PgWHEEL STAR;Lf TWELVE POgTm z STAR;HEAVY TWELVE POgTm z STAR;3PgWHEEL STAR
1F7D5;CIRCLm w;NEGATIVE CIRCLm w;CIRCLm SQUARE;NEGATIVE CIRCLm SQUARE
1F7E0;LARGE ORANGE CIRCLE;1YELLOW CIRCLE;1GREEN CIRCLE;1PURPLE CIRCLE;1BROWN CIRCLE;1Rm SQUARE
1F7E6;LARGE BLUE SQUARE;1ORANGE SQUARE;1YELLOW SQUARE;1GREEN SQUARE;1PURPLE SQUARE;1BROWN SQUARE
1F7F0;HEAVY EQUALS n
1F800;pk h c e w hHEAD;UPk h c e w hHEAD;Rfk h c e w hHEAD;DOWNk h c e w hHEAD
1F804;pk h c MmIUM w hHEAD;UPk h c MmIUM w hHEAD;Rfk h c MmIUM w hHEAD;DOWNk h c MmIUM w hHEAD
1F808;pk h c LARGE w hHEAD;UPk h c LARGE w hHEAD;Rfk h c LARGE w hHEAD;DOWNk h c LARGE w hHEAD
1F810;pk h c e EQUILATiAL hHEAD;UPk h c e EQUILATiAL hHEAD;Rfk h c e EQUILATiAL hHEAD
1F813;DOWNk h c e EQUILATiAL hHEAD;pk h c EQUILATiAL hHEAD;UPk h c EQUILATiAL hHEAD
1F816;Rfk h c EQUILATiAL hHEAD;DOWNk h c EQUILATiAL hHEAD;HEAVY pk h c EQUILATiAL hHEAD
1F819;HEAVY UPk h c EQUILATiAL hHEAD;1Rfk h c EQUILATiAL hHEAD;1DOWNk h c EQUILATiAL hHEAD
1F81C;HEAVY pk h c LARGE EQUILATiAL hHEAD;1UPk h c LARGE EQUILATiAL hHEAD
1F81E;HEAVY Rfk h c LARGE EQUILATiAL hHEAD;1DOWNk h c LARGE EQUILATiAL hHEAD
1F820;pk w-HEADm h c Nh SHAFT;UPk w-HEADm h c Nh SHAFT;Rfk w-HEADm h c Nh SHAFT
1F823;DOWNk w-HEADm h c Nh SHAFT;pk w-HEADm h c MmIUM SHAFT;UPk w-HEADm h c MmIUM SHAFT
1F826;Rfk w-HEADm h c MmIUM SHAFT;DOWNk w-HEADm h c MmIUM SHAFT;pk w-HEADm h c BOLD SHAFT
1F829;UPk w-HEADm h c BOLD SHAFT;Rfk w-HEADm h c BOLD SHAFT;DOWNk w-HEADm h c BOLD SHAFT
1F82C;pk w-HEADm h c HEAVY SHAFT;UPk w-HEADm h c HEAVY SHAFT;Rfk w-HEADm h c HEAVY SHAFT
1F82F;DOWNk w-HEADm h c HEAVY SHAFT;pk w-HEADm h c ViY HEAVY SHAFT;UPk w-HEADm h c ViY HEAVY SHAFT
1F832;Rfk w-HEADm h c ViY HEAVY SHAFT;DOWNk w-HEADm h c ViY HEAVY SHAFT;pk FgGi-POST h
1F835;UPk FgGi-POST h;Rfk FgGi-POST h;DOWNk FgGi-POST h;pk SQUARm h;UPk SQUARm h;Rfk SQUARm h
1F83B;DOWNk SQUARm h;pk COMPRESSm h;UPk COMPRESSm h;Rfk COMPRESSm h;DOWNk COMPRESSm h
1F840;pk HEAVY COMPRESSm h;UPk HEAVY COMPRESSm h;Rfk HEAVY COMPRESSm h;DOWNk HEAVY COMPRESSm h
1F844;pk HEAVY h;UPk HEAVY h;Rfk HEAVY h;DOWNk HEAVY h
1F850;pk SANS-SiIF h;UPk SANS-SiIF h;Rfk SANS-SiIF h;DOWNk SANS-SiIF h;NORTH WEST SANS-SiIF h
1F855;NORTH EAST SANS-SiIF h;SOUTH EAST SANS-SiIF h;1WEST SANS-SiIF h;p Rf SANS-SiIF h
1F859;UP DOWN SANS-SiIF h
1F860;WIDE-HEADm pk Lf BARB h;1UPk Lf BARB h;1Rfk Lf BARB h;1DOWNk Lf BARB h;1NORTH WEST Lf BARB h
1F865;WIDE-HEADm NORTH EAST Lf BARB h;1SOUTH EAST Lf BARB h;2WEST Lf BARB h;1pk BARB h;1UPk BARB h
1F86A;WIDE-HEADm Rfk BARB h;1DOWNk BARB h;1NORTH WEST BARB h;2EAST BARB h;1SOUTH EAST BARB h
1F86F;WIDE-HEADm SOUTH WEST BARB h;1pk MmIUM BARB h;1UPk MmIUM BARB h;1Rfk MmIUM BARB h
1F873;WIDE-HEADm DOWNk MmIUM BARB h;1NORTH WEST MmIUM BARB h;2EAST MmIUM BARB h
1F876;WIDE-HEADm SOUTH EAST MmIUM BARB h;2WEST MmIUM BARB h;1pk HEAVY BARB h;1UPk HEAVY BARB h
1F87A;WIDE-HEADm Rfk HEAVY BARB h;1DOWNk HEAVY BARB h;1NORTH WEST HEAVY BARB h;2EAST HEAVY BARB h
1F87E;WIDE-HEADm SOUTH EAST HEAVY BARB h;2WEST HEAVY BARB h;1pk ViY HEAVY BARB h
1F881;WIDE-HEADm UPk ViY HEAVY BARB h;1Rfk ViY HEAVY BARB h;1DOWNk ViY HEAVY BARB h
1F884;WIDE-HEADm NORTH WEST ViY HEAVY BARB h;2EAST ViY HEAVY BARB h;1SOUTH EAST ViY HEAVY BARB h
1F887;WIDE-HEADm SOUTH WEST ViY HEAVY BARB h
1F890;pk w hHEAD;UPk w hHEAD;Rfk w hHEAD;DOWNk w hHEAD;pk WHITE h cg w hHEAD
1F895;UPk WHITE h cg w hHEAD;Rfk WHITE h cg w hHEAD;DOWNk WHITE h cg w hHEAD;pk h c NOTCHm TAIL
1F899;UPk h c NOTCHm TAIL;Rfk h c NOTCHm TAIL;DOWNk h c NOTCHm TAIL;HEAVY h SHAFT WIDTH ONE
1F89D;HEAVY h SHAFT WIDTH TWO THIRDS;4ONE HALF;5THIRD;pk BOTTOM-SHADm WHITE h
1F8A1;Rfk BOTTOM SHADm WHITE h;pk TOP SHADm WHITE h;Rfk TOP SHADm WHITE h;pk p-SHADm WHITE h
1F8A5;Rfk Rf-SHADm WHITE h;pk Rf-SHADm WHITE h;Rfk p-SHADm WHITE h;pk BACK-TILTm SHADOWm WHITE h
1F8A9;Rfk BACK-TILTm SHADOWm WHITE h;pk FRONT-TILTm SHADOWm WHITE h
1F8AB;Rfk FRONT-TILTm SHADOWm WHITE h;WHITE h SHAFT WIDTH ONE;4TWO THIRDS
1F8B0;h POgTgG UPk THEN NORTH WEST;2Rfk THEN CURVgG SOUTH WEST
1F900;CIRCLm CROSS jEE c FOUR sS;4TWO sS;2jEE;p HALF CIRCLE c FOUR sS;4THREE sS;4TWO sS;4s;2CIRCLE
1F908;DOWNWARD FACgG HOOK;2NOTCHm HOOK;2HOOK c s;2NOTCHm HOOK c s;PgCHm FgGiS;WHITE HEART
1F90E;BROWN HEART;PgCHgG Hl;ZIPPi-MOUTH FACE;MONEY-MOUTH FACE;FACE c THiMOMETi;NiD FACE
1F914;THgKgG FACE;FACE c HEAD-BlAGE;ROBOT FACE;HUGGgG FACE;n OF THE HORNS;CALL ME Hl
1F91A;RAISm BACK OF Hl;p-FACgG FIST;Rf-FACgG FIST;HlSHAKE;Hl c gDEX l MIDDLE FgGiS CROSSm
1F91F;I LOVE YOU Hl n;FACE c COWBOY HAT;CLOWN FACE;NAUSEATm FACE;ROLLgG ON THE FLOOR LAUGHgG
1F924;DROOLgG FACE;LYgG FACE;FACE PALM;SNEEZgG FACE;FACE c ONE EYEBROW RAISm
1F929;GRgNgG FACE c STAR EYES;3ONE LARGE l ONE e EYE;FACE c FgGi COVigG CLOSm LIPS
1F92C;SiIOUS FACE c uS COVigG MOUTH;SMILgG FACE c SMILgG EYES l Hl COVigG MOUTH
1F92E;FACE c OPEN MOUTH VOMITgG;SHOCKm FACE c EXPLODgG HEAD;PREGNANT WOMAN;BREAST-FEmgG
1F932;PALMS UP TOGETHi;SELFIE;PRgCE;MAN g TUXmO;MOTHi CHRISTMAS;SHRUG;PiSON DOgG CARTWHEEL;JUGGLgG
1F93A;FENCi;MODiN PENTATHLON;WRESTLiS;WATi POLO;HlBALL;DIVgG MASK;WILTm FLOWi;DRUM c DRUMSTICKS
1F942;CLgKgG GLASSES;TUMBLi GLASS;SPOON;GOAL NET;RIFLE;FIRST PLACE MmAL;SECOND PLACE MmAL
1F949;THIRD PLACE MmAL;BOXgG GLOVE;MARTIAL ARTS UNIj;CURLgG STONE;LACROSSE STICK l BALL;SOFTBALL
1F94F;FLYgG DISC;CROISSANT;AVOCADO;CUCUMBi;BACON;POTATO;CARROT;BAGUETTE BREAD;GREEN SALAD
1F958;SHALLOW PAN OF FOOD;STUFFm FLATBREAD;EGG;GLASS OF MILK;PEANUTS;KIWIFRUIT;PANCAKES;DUMPLgG
1F960;FORTUNE COOKIE;TAKEOUT BOX;CHOPSTICKS;BOWL c SPOON;CUP c STRAW;COCONUT;BROCCOLI;PIE;PRETZEL
1F969;CUT OF MEAT;SlWICH;CANNm FOOD;LEAFY GREEN;MANGO;MOON CAKE;BAGEL
1F970;SMILgG FACE c SMILgG EYES l THREE HEARTS;YAWNgG FACE;SMILgG FACE c TEAR
1F973;FACE c PARTY HORN l PARTY HAT;2UNEVEN EYES l WAVY MOUTH;OViHEATm FACE;FREEZgG FACE;NgJA
1F978;DISGUISm FACE;FACE HOLDgG BACK TEARS;1c PLEADgG EYES;SARI;LAB COAT;GOGGLES;HIKgG BOOT
1F97F;FLAT SHOE;CRAB;LION FACE;SCORPION;TURKEY;UNICORN FACE;EAGLE;DUCK;BAT;SHARK;OWL;FOX FACE
1F98B;BUTTiFLY;DEi;GORILLA;LIZARD;RHgOCiOS;SHRIMP;SQUID;GIRAFFE FACE;ZEBRA FACE;HmGEHOG;SAUROPOD
1F996;T-REX;CRICKET;KANGAROO;LLAMA;PEACOCK;HIPPOPOTAMUS;PARROT;RACCOON;LOBSTi;MOSQUITO;MICROBE
1F9A1;BADGi;SWAN;MAMMOTH;DODO;SLOTH;OTTi;ORANGUTAN;SKUNK;FLAMgGO;OYSTi;BEAVi;BISON;SEAL;GUIDE DOG
1F9AF;PROBgG CANE;EMOJI b Rm HAIR;2CURLY HAIR;2BALD;2WHITE HAIR;BONE;LEG;FOOT;TOOTH;SUPiHiO
1F9B9;SUPiVILLAg;SAFETY VEST;EAR c HEARgG AID;MOTORIZm WHEELCHAIR;MANUAL WHEELCHAIR;MECHANICAL ARM
1F9BF;MECHANICAL LEG;CHEESE WmGE;CUPCAKE;SALT SHAKi;BEViAGE BOX;GARLIC;ONION;FALAFEL;WAFFLE;BUTTi
1F9C9;MATE DRgK;ICE CUBE;BUBBLE TEA;TROLL;STlgG PiSON;KNEELgG PiSON;DEAF PiSON;FACE c MONOCLE
1F9D1;ADULT;CHILD;OLDi ADULT;BEARDm PiSON;PiSON c HEADSCARF;1g STEAMY ROOM;1CLIMBgG;1g LOTUS POSIv
1F9D9;MAGE;FAIRY;VAMPIRE;MiPiSON;ELF;GENIE;ZOMBIE;BRAg;ORANGE HEART;BILLm CAP;SCARF;GLOVES;COAT
1F9E6;SOCKS;Rm GIFT ENVELOPE;FIRECRACKi;JIGSAW PUZZLE PIECE;TEST TUBE;PETRI DISH;DNA r HELIX
1F9ED;COMPASS;ABACUS;FIRE EXTgGUISHi;TOOLBOX;BRICK;MAGNET;LUGGAGE;LOv BOTTLE;SPOOL OF THREAD
1F9F6;BALL OF YARN;SAFETY Pg;TmDY BEAR;BROOM;BASKET;ROLL OF PAPi;BAR OF SOAP;SPONGE;RECEIPT
1F9FF;NAZAR AMULET;NEUTRAL CHESS KgG;2QUEEN;2ROOK;2BISHOP;2KNf;2PAWN
1FA06;WHITE CHESS KNf ROTATm FORTY-FIVE DEGREES;z CHESS KNf ROTATm FORTY-FIVE DEGREES
1FA08;NEUTRAL CHESS KNf ROTATm FORTY-FIVE DEGREES;WHITE CHESS KgG ROTATm NgETY DEGREES
1FA0A;WHITE CHESS QUEEN ROTATm NgETY DEGREES;2ROOK ROTATm NgETY DEGREES
1FA0C;WHITE CHESS BISHOP ROTATm NgETY DEGREES;2KNf ROTATm NgETY DEGREES;2PAWN ROTATm NgETY DEGREES
1FA0F;z CHESS KgG ROTATm NgETY DEGREES;2QUEEN ROTATm NgETY DEGREES;2ROOK ROTATm NgETY DEGREES
1FA12;z CHESS BISHOP ROTATm NgETY DEGREES;2KNf ROTATm NgETY DEGREES;2PAWN ROTATm NgETY DEGREES
1FA15;NEUTRAL CHESS KgG ROTATm NgETY DEGREES;2QUEEN ROTATm NgETY DEGREES
1FA17;NEUTRAL CHESS ROOK ROTATm NgETY DEGREES;2BISHOP ROTATm NgETY DEGREES
1FA19;NEUTRAL CHESS KNf ROTATm NgETY DEGREES;2PAWN ROTATm NgETY DEGREES
1FA1B;WHITE CHESS KNf ROTATm ONE HUNDRm THIRTY-FIVE DEGREES
1FA1C;z CHESS KNf ROTATm ONE HUNDRm THIRTY-FIVE DEGREES
1FA1D;NEUTRAL CHESS KNf ROTATm ONE HUNDRm THIRTY-FIVE DEGREES;WHITE CHESS TURNm KgG;3QUEEN;3ROOK
1FA21;WHITE CHESS TURNm BISHOP;3KNf;3PAWN;z CHESS TURNm KgG;3QUEEN;3ROOK;3BISHOP;3KNf;3PAWN
1FA2A;NEUTRAL CHESS TURNm KgG;3QUEEN;3ROOK;3BISHOP;3KNf;3PAWN
1FA30;WHITE CHESS KNf ROTATm TWO HUNDRm TWENTY-FIVE DEGREES
1FA31;z CHESS KNf ROTATm TWO HUNDRm TWENTY-FIVE DEGREES
1FA32;NEUTRAL CHESS KNf ROTATm TWO HUNDRm TWENTY-FIVE DEGREES
1FA33;WHITE CHESS KgG ROTATm TWO HUNDRm SEVENTY DEGREES;2QUEEN ROTATm TWO HUNDRm SEVENTY DEGREES
1FA35;WHITE CHESS ROOK ROTATm TWO HUNDRm SEVENTY DEGREES;2BISHOP ROTATm TWO HUNDRm SEVENTY DEGREES
1FA37;WHITE CHESS KNf ROTATm TWO HUNDRm SEVENTY DEGREES;2PAWN ROTATm TWO HUNDRm SEVENTY DEGREES
1FA39;z CHESS KgG ROTATm TWO HUNDRm SEVENTY DEGREES;2QUEEN ROTATm TWO HUNDRm SEVENTY DEGREES
1FA3B;z CHESS ROOK ROTATm TWO HUNDRm SEVENTY DEGREES;2BISHOP ROTATm TWO HUNDRm SEVENTY DEGREES
1FA3D;z CHESS KNf ROTATm TWO HUNDRm SEVENTY DEGREES;2PAWN ROTATm TWO HUNDRm SEVENTY DEGREES
1FA3F;NEUTRAL CHESS KgG ROTATm TWO HUNDRm SEVENTY DEGREES;2QUEEN ROTATm TWO HUNDRm SEVENTY DEGREES
1FA41;NEUTRAL CHESS ROOK ROTATm TWO HUNDRm SEVENTY DEGREES
1FA42;NEUTRAL CHESS BISHOP ROTATm TWO HUNDRm SEVENTY DEGREES
1FA43;NEUTRAL CHESS KNf ROTATm TWO HUNDRm SEVENTY DEGREES;2PAWN ROTATm TWO HUNDRm SEVENTY DEGREES
1FA45;WHITE CHESS KNf ROTATm THREE HUNDRm FIFTEEN DEGREES
1FA46;z CHESS KNf ROTATm THREE HUNDRm FIFTEEN DEGREES
1FA47;NEUTRAL CHESS KNf ROTATm THREE HUNDRm FIFTEEN DEGREES;WHITE CHESS EQUIHOPPi
1FA49;z CHESS EQUIHOPPi;NEUTRAL CHESS EQUIHOPPi;WHITE CHESS EQUIHOPPi ROTATm NgETY DEGREES
1FA4C;z CHESS EQUIHOPPi ROTATm NgETY DEGREES;NEUTRAL CHESS EQUIHOPPi ROTATm NgETY DEGREES
1FA4E;WHITE CHESS KNf-QUEEN;2KNf-ROOK;2KNf-BISHOP;z CHESS KNf-QUEEN;2KNf-ROOK;2KNf-BISHOP
1FA60;XIANGQI Rm GENiAL;2MlARg;2ELEPHANT;2HORSE;2CHARIOT;2CANNON;2SOLDIi;1z GENiAL;2MlARg
1FA69;XIANGQI z ELEPHANT;2HORSE;2CHARIOT;2CANNON;2SOLDIi
1FA70;BALLET SHOES;ONE-PIECE SWIMSUIT;BRIEFS;SHORTS;THONG SlAL
1FA78;DROP OF BLOOD;ADHESIVE BlAGE;STETHOSCOPE;X-RAY;CRUTCH
1FA80;YO-YO;KITE;PARACHUTE;BOOMiANG;MAGIC Wl;PgATA;NESTgG DOLLS
1FA90;RgGm PLANET;CHAIR;RAZOR;AXE;DIYA LAMP;BANJO;MILITARY HELMET;ACCORDION;LONG DRUM;COg
1FA9A;CARPENTRY SAW;SCREWDRIVi;LADDi;HOOK;MIRROR;WgDOW;PLUNGi;SEWgG NEmLE;KNOT;BUCKET;MOUSE TRAP
1FAA5;TOOTHBRUSH;HEADSTONE;PLACARD;ROCK;MIRROR BALL;IDENTIFICAv CARD;LOW BATTiY;HAMSA
1FAB0;FLY;WORM;BEETLE;COCKROACH;POTTm PLANT;WOOD;FEATHi;LOTUS;CORAL;EMPTY NEST;NEST c EGGS
1FAC0;ANATOMICAL HEART;LUNGS;PEOPLE HUGGgG;PREGNANT MAN;1PiSON;PiSON c CROWN
1FAD0;BLUEBiRIES;BELL PEPPi;OLIVE;FLATBREAD;TAMALE;FONDUE;TEAPOT;POURgG LIQUID;BEANS;JAR
1FAE0;MELTgG FACE;SALUTgG FACE;FACE c OPEN EYES l Hl OVi MOUTH;2PEEKgG EYE;2DIAGONAL MOUTH
1FAE5;sTm LgE FACE;BITgG LIP;BUBBLES
1FAF0;Hl c gDEX FgGi l THUMB CROSSm;Rfk Hl;pk Hl;PALM DOWN Hl;1UP Hl;gDEX POgTgG AT THE VIEWi
1FAF6;HEART HlS
1FB00;BLOCK SEXTANT-1;1SEXTANT-2;1SEXTANT-12;1SEXTANT-3;1SEXTANT-13;1SEXTANT-23;1SEXTANT-123
1FB07;BLOCK SEXTANT-4;1SEXTANT-14;1SEXTANT-24;1SEXTANT-124;1SEXTANT-34;1SEXTANT-134;1SEXTANT-234
1FB0E;BLOCK SEXTANT-1234;1SEXTANT-5;1SEXTANT-15;1SEXTANT-25;1SEXTANT-125;1SEXTANT-35;1SEXTANT-235
1FB15;BLOCK SEXTANT-1235;1SEXTANT-45;1SEXTANT-145;1SEXTANT-245;1SEXTANT-1245;1SEXTANT-345
1FB1B;BLOCK SEXTANT-1345;1SEXTANT-2345;1SEXTANT-12345;1SEXTANT-6;1SEXTANT-16;1SEXTANT-26
1FB21;BLOCK SEXTANT-126;1SEXTANT-36;1SEXTANT-136;1SEXTANT-236;1SEXTANT-1236;1SEXTANT-46
1FB27;BLOCK SEXTANT-146;1SEXTANT-1246;1SEXTANT-346;1SEXTANT-1346;1SEXTANT-2346;1SEXTANT-12346
1FB2D;BLOCK SEXTANT-56;1SEXTANT-156;1SEXTANT-256;1SEXTANT-1256;1SEXTANT-356;1SEXTANT-1356
1FB33;BLOCK SEXTANT-2356;1SEXTANT-12356;1SEXTANT-456;1SEXTANT-1456;1SEXTANT-2456;1SEXTANT-12456
1FB39;BLOCK SEXTANT-3456;1SEXTANT-13456;1SEXTANT-23456
1FB3C;LOWi p BLOCK DIAGONAL LOWi MIDDLE p TO LOWi CENTRE;9Rf;4UPPi MIDDLE p TO LOWi CENTRE;9Rf
1FB40;LOWi p BLOCK DIAGONAL UPPi p TO LOWi CENTRE;1Rf BLOCK DIAGONAL UPPi MIDDLE p TO UPPi CENTRE
1FB42;LOWi Rf BLOCK DIAGONAL UPPi MIDDLE p TO UPPi Rf;4LOWi MIDDLE p TO UPPi CENTRE;9Rf
1FB45;LOWi Rf BLOCK DIAGONAL LOWi p TO UPPi CENTRE;5MIDDLE p TO UPPi MIDDLE Rf
1FB47;LOWi Rf BLOCK DIAGONAL LOWi CENTRE TO LOWi MIDDLE Rf;5p TO LOWi MIDDLE Rf
1FB49;LOWi Rf BLOCK DIAGONAL LOWi CENTRE TO UPPi MIDDLE Rf;5p TO UPPi MIDDLE Rf;5CENTRE TO UPPi Rf
1FB4C;LOWi p BLOCK DIAGONAL UPPi CENTRE TO UPPi MIDDLE Rf;5p TO UPPi MIDDLE Rf
1FB4E;LOWi p BLOCK DIAGONAL UPPi CENTRE TO LOWi MIDDLE Rf;5p TO LOWi MIDDLE Rf;5CENTRE TO LOWi Rf
1FB51;LOWi p BLOCK DIAGONAL UPPi MIDDLE p TO LOWi MIDDLE Rf
1FB52;UPPi Rf BLOCK DIAGONAL LOWi MIDDLE p TO LOWi CENTRE;9Rf;4UPPi MIDDLE p TO LOWi CENTRE;9Rf
1FB56;UPPi Rf BLOCK DIAGONAL UPPi p TO LOWi CENTRE;1p BLOCK DIAGONAL UPPi MIDDLE p TO UPPi CENTRE
1FB58;UPPi p BLOCK DIAGONAL UPPi MIDDLE p TO UPPi Rf;4LOWi MIDDLE p TO UPPi CENTRE;9Rf
1FB5B;UPPi p BLOCK DIAGONAL LOWi p TO UPPi CENTRE;5MIDDLE p TO UPPi MIDDLE Rf
1FB5D;UPPi p BLOCK DIAGONAL LOWi CENTRE TO LOWi MIDDLE Rf;5p TO LOWi MIDDLE Rf
1FB5F;UPPi p BLOCK DIAGONAL LOWi CENTRE TO UPPi MIDDLE Rf;5p TO UPPi MIDDLE Rf;5CENTRE TO UPPi Rf
1FB62;UPPi Rf BLOCK DIAGONAL UPPi CENTRE TO UPPi MIDDLE Rf;5p TO UPPi MIDDLE Rf
1FB64;UPPi Rf BLOCK DIAGONAL UPPi CENTRE TO LOWi MIDDLE Rf;5p TO LOWi MIDDLE Rf;5CENTRE TO LOWi Rf
1FB67;UPPi Rf BLOCK DIAGONAL UPPi MIDDLE p TO LOWi MIDDLE Rf
1FB68;UPPi l Rf l LOWi TRIANGULAR THREE QUARTiS BLOCK;p l LOWi l Rf TRIANGULAR THREE QUARTiS BLOCK
1FB6A;UPPi l p l LOWi TRIANGULAR THREE QUARTiS BLOCK;p l UPPi l Rf TRIANGULAR THREE QUARTiS BLOCK
1FB6C;p TRIANGULAR ONE QUARTi BLOCK;UPPi TRIANGULAR ONE QUARTi BLOCK
1FB6E;Rf TRIANGULAR ONE QUARTi BLOCK;LOWi TRIANGULAR ONE QUARTi BLOCK;ViTICAL ONE EfH BLOCK-2
1FB71;ViTICAL ONE EfH BLOCK-3;3BLOCK-4;3BLOCK-5;3BLOCK-6;3BLOCK-7;t ONE EfH BLOCK-2;3BLOCK-3
1FB78;t ONE EfH BLOCK-4;3BLOCK-5;3BLOCK-6;3BLOCK-7;p l LOWi ONE EfH BLOCK;2UPPi ONE EfH BLOCK
1FB7E;Rf l UPPi ONE EfH BLOCK;2LOWi ONE EfH BLOCK;UPPi l LOWi ONE EfH BLOCK;t ONE EfH BLOCK-1358
1FB82;UPPi ONE QUARTi BLOCK;1THREE EfHS BLOCK;1FIVE EfHS BLOCK;1THREE QUARTiS BLOCK
1FB86;UPPi SEVEN EfHS BLOCK;Rf ONE QUARTi BLOCK;1THREE EfHS BLOCK;1FIVE EfHS BLOCK
1FB8A;Rf THREE QUARTiS BLOCK;1SEVEN EfHS BLOCK;p HALF MmIUM SHADE;Rf HALF MmIUM SHADE
1FB8E;UPPi HALF MmIUM SHADE;LOWi HALF MmIUM SHADE;gViSE MmIUM SHADE
1FB91;UPPi HALF BLOCK l LOWi HALF gViSE MmIUM SHADE;2gViSE MmIUM SHADE l LOWi HALF BLOCK
1FB94;p HALF gViSE MmIUM SHADE l Rf HALF BLOCK;CHECKi BOARD FILL;gViSE CHECKi BOARD FILL
1FB97;HEAVY t FILL;UPPi p TO LOWi Rf FILL;1Rf TO LOWi p FILL;1l LOWi TRIANGULAR HALF BLOCK
1FB9B;p l Rf TRIANGULAR HALF BLOCK;UPPi p TRIANGULAR MmIUM SHADE;1Rf TRIANGULAR MmIUM SHADE
1FB9E;LOWi Rf TRIANGULAR MmIUM SHADE;1p TRIANGULAR MmIUM SHADE
1FBA0;BOX DRAWgGS Lf DIAGONAL UPPi CENTRE TO MIDDLE p;8Rf;4MIDDLE p TO LOWi CENTRE
1FBA3;BOX DRAWgGS Lf DIAGONAL MIDDLE Rf TO LOWi CENTRE;4UPPi CENTRE TO MIDDLE p TO LOWi CENTRE
1FBA5;BOX DRAWgGS Lf DIAGONAL UPPi CENTRE TO MIDDLE Rf TO LOWi CENTRE
1FBA6;BOX DRAWgGS Lf DIAGONAL MIDDLE p TO LOWi CENTRE TO MIDDLE Rf;7UPPi CENTRE TO MIDDLE Rf
1FBA8;BOX DRAWgGS Lf DIAGONAL UPPi CENTRE TO MIDDLE p l MIDDLE Rf TO LOWi CENTRE
1FBA9;BOX DRAWgGS Lf DIAGONAL UPPi CENTRE TO MIDDLE Rf l MIDDLE p TO LOWi CENTRE
1FBAA;BOX DRAWgGS Lf DIAGONAL UPPi CENTRE TO MIDDLE Rf TO LOWi CENTRE TO MIDDLE p
1FBAB;BOX DRAWgGS Lf DIAGONAL UPPi CENTRE TO MIDDLE p TO LOWi CENTRE TO MIDDLE Rf
1FBAC;BOX DRAWgGS Lf DIAGONAL MIDDLE p TO UPPi CENTRE TO MIDDLE Rf TO LOWi CENTRE
1FBAD;BOX DRAWgGS Lf DIAGONAL MIDDLE Rf TO UPPi CENTRE TO MIDDLE p TO LOWi CENTRE;4DIAMOND
1FBAF;BOX DRAWgGS Lf t c ViTICAL y;hHEAD-SHAPm POgTi;gViSE CHECK MARK;p HALF RUNNgG MAN
1FBB3;Rf HALF RUNNgG MAN;gViSE DOWNk h c TIP pk;pk h l UPPi l LOWi ONE EfH BLOCK
1FBB6;Rfk h l UPPi l LOWi ONE EfH BLOCK;DOWNk h l Rf ONE EfH BLOCK;UPk h l Rf ONE EfH BLOCK
1FBB9;p HALF FOLDi;Rf HALF FOLDi;VOIDm GREEK CROSS;Rf OPEN SQUARm s;NEGATIVE DIAGONAL CROSS
1FBBE;NEGATIVE DIAGONAL MIDDLE Rf TO LOWi CENTRE;2DIAMOND;WHITE HEAVY SALTIRE c ROUNDm CORNiS
1FBC1;p THIRD WHITE Rf POgTgG gDEX;MIDDLE THIRD WHITE Rf POgTgG gDEX;Rf THIRD WHITE Rf POgTgG gDEX
1FBC4;NEGATIVE SQUARm QUESv MARK;STICK FIGURE;2c ARMS RAISm;2LEANgG p;3Rf;2c DRESS
1FBCA;WHITE UP-POgTgG CHEVRON
1FBF0;SEGMENTm DIGIT ZiO;2ONE;2TWO;2THREE;2FOUR;2FIVE;2SIX;2SEVEN;2Ef;2NgE
E0001;LANGUAGE TAG
E0020;TAG SPACE;1EXCLAMAv MARK;1QUOTAv MARK;1NUMBi n;1DOLLAR n;1PiCENT n;1AMPiSl;1APOSTROPHE
E0028;TAG p PARENTHESIS;1Rf PARENTHESIS;1ASTiISK;1PLUS n;1COMMA;1HYPHEN-MgUS;1FULL STOP;1SOLIDUS
E0030;TAG DIGIT ZiO;2ONE;2TWO;2THREE;2FOUR;2FIVE;2SIX;2SEVEN;2Ef;2NgE;1COLON;1SEMICOLON
E003C;TAG LESS-THAN n;1EQUALS n;1GREATi-THAN n;1QUESv MARK;1COMMiCIAL AT;1LATg d a A;4B;4C;4D;4E
E0046;TAG LATg d a F;4G;4H;4I;4J;4K;4L;4M;4N;4O;4P;4Q;4R;4S;4T;4U;4V;4W;4X;4Y;4Z;1p SQUARE BRACKET
E005C;TAG REViSE SOLIDUS;1Rf SQUARE BRACKET;1CIRCUMFLEX ACCENT;1LOW LgE;1GRAVE ACCENT;1LATg e a A
E0062;TAG LATg e a B;4C;4D;4E;4F;4G;4H;4I;4J;4K;4L;4M;4N;4O;4P;4Q;4R;4S;4T;4U;4V;4W;4X;4Y;4Z
E007B;TAG p CURLY BRACKET;1ViTICAL LgE;1Rf CURLY BRACKET;1TILDE;CANCEL TAG
E0100;VARIAv o-17;1o-18;1o-19;1o-20;1o-21;1o-22;1o-23;1o-24;1o-25;1o-26;1o-27;1o-28;1o-29;1o-30
E010E;VARIAv o-31;1o-32;1o-33;1o-34;1o-35;1o-36;1o-37;1o-38;1o-39;1o-40;1o-41;1o-42;1o-43;1o-44
E011C;VARIAv o-45;1o-46;1o-47;1o-48;1o-49;1o-50;1o-51;1o-52;1o-53;1o-54;1o-55;1o-56;1o-57;1o-58
E012A;VARIAv o-59;1o-60;1o-61;1o-62;1o-63;1o-64;1o-65;1o-66;1o-67;1o-68;1o-69;1o-70;1o-71;1o-72
E0138;VARIAv o-73;1o-74;1o-75;1o-76;1o-77;1o-78;1o-79;1o-80;1o-81;1o-82;1o-83;1o-84;1o-85;1o-86
E0146;VARIAv o-87;1o-88;1o-89;1o-90;1o-91;1o-92;1o-93;1o-94;1o-95;1o-96;1o-97;1o-98;1o-99;1o-100
E0154;VARIAv o-101;1o-102;1o-103;1o-104;1o-105;1o-106;1o-107;1o-108;1o-109;1o-110;1o-111;1o-112
E0160;VARIAv o-113;1o-114;1o-115;1o-116;1o-117;1o-118;1o-119;1o-120;1o-121;1o-122;1o-123;1o-124
E016C;VARIAv o-125;1o-126;1o-127;1o-128;1o-129;1o-130;1o-131;1o-132;1o-133;1o-134;1o-135;1o-136
E0178;VARIAv o-137;1o-138;1o-139;1o-140;1o-141;1o-142;1o-143;1o-144;1o-145;1o-146;1o-147;1o-148
E0184;VARIAv o-149;1o-150;1o-151;1o-152;1o-153;1o-154;1o-155;1o-156;1o-157;1o-158;1o-159;1o-160
E0190;VARIAv o-161;1o-162;1o-163;1o-164;1o-165;1o-166;1o-167;1o-168;1o-169;1o-170;1o-171;1o-172
E019C;VARIAv o-173;1o-174;1o-175;1o-176;1o-177;1o-178;1o-179;1o-180;1o-181;1o-182;1o-183;1o-184
E01A8;VARIAv o-185;1o-186;1o-187;1o-188;1o-189;1o-190;1o-191;1o-192;1o-193;1o-194;1o-195;1o-196
E01B4;VARIAv o-197;1o-198;1o-199;1o-200;1o-201;1o-202;1o-203;1o-204;1o-205;1o-206;1o-207;1o-208
E01C0;VARIAv o-209;1o-210;1o-211;1o-212;1o-213;1o-214;1o-215;1o-216;1o-217;1o-218;1o-219;1o-220
E01CC;VARIAv o-221;1o-222;1o-223;1o-224;1o-225;1o-226;1o-227;1o-228;1o-229;1o-230;1o-231;1o-232
E01D8;VARIAv o-233;1o-234;1o-235;1o-236;1o-237;1o-238;1o-239;1o-240;1o-241;1o-242;1o-243;1o-244
E01E4;VARIAv o-245;1o-246;1o-247;1o-248;1o-249;1o-250;1o-251;1o-252;1o-253;1o-254;1o-255;1o-256
0;NUL;SOH;STX;ETX;EOT;ENQ;ACK;BEL;BS;t TABULAv;NEW LgE;ViTICAL TABULAv;FF;CR;LOCKgG-SHIFT ONE;1ZiO
10;DLE;DC1;DC2;DC3;DC4;NAK;SYN;ETB;CAN;EOM;SUB;ESC;FILE SEPARATOR;GROUP SEPARATOR;RECORD SEPARATOR
1F;UNIT SEPARATOR;SP
7F;DEL;PAD;HOP;BPH;NBH;gD;NEL;SSA;ESA;t TABULAv SET;2c JUSTIFICAv;ViTICAL TABULAv SET
8B;PARTIAL LgE DOWN;2UP;REViSE gDEX;SgGLE-SHIFT-2;SgGLE-SHIFT-3;DCS;PRIVATE USE-1;1USE-2;STS;CCH
95;MW;START OF PROTECTm AREA;END OF PROTECTm AREA;SOS;SGC;SCI;CSI;ST;OSC;PM;APC;NBSP
AD;SHY
1A2;LATg d a GHA;1e a GHA
34F;CGJ
61C;ALM
709;SYRIAC SUBLgEAR COLON SKEWm p
CDE;KANNADA a LLLA
E9D;LAO a FO FON
E9F;LAO a FO FAY
EA3;LAO a RO
EA5;LAO a LO
FD0;TIBETAN MARK BKA- SHOG GI MGO RGYAN
11EC;HANGUL JONGSEONG YESIEUNG-KIYEOK;2YESIEUNG-SSANGKIYEOK;2SSANGYESIEUNG;2YESIEUNG-KHIEUKH
180B;FVS1;FVS2;FVS3;MVS;FVS4
200B;ZWSP;ZWNJ;ZWJ;LRM;RLM
202A;LRE;RLE;PDF;LRO;RLO;NNBSP
205F;MMSP;WJ
2066;LRI;RLI;FSI;PDI
2118;WEIiSTRASS ELLIPTIC FUNCv
2448;MICR ON US u;1DASH u
2B7A;pk w-HEADm h c r ViTICAL y
2B7C;Rfk w-HEADm h c r ViTICAL y
A015;YI SYLLABLE ITiAv MARK
AA6E;MYANMAR a KHAMTI LLA
FE00;VS1;VS2;VS3;VS4;VS5;VS6;VS7;VS8;VS9;VS10;VS11;VS12;VS13;VS14;VS15;VS16
FE18;PRESENTAv j FOR ViTICAL Rf WHITE LENTICULAR BRACKET
FEFF;BYTE ORDi MARK
122D4;CUNEIj n NU11 TENU;3OVi NU11 BUR OVi BUR
16E56;MmEFAIDRg d a H;3NG
16E76;MmEFAIDRg e a H;3NG
1B001;HENTAIGANA a E-1
1D0C5;BYZANTgE MUSICAL u FTHORA SKLIRON CHROMA VASIS
E0100;VS17;VS18;VS19;VS20;VS21;VS22;VS23;VS24;VS25;VS26;VS27;VS28;VS29;VS30;VS31;VS32;VS33;VS34
E0112;VS35;VS36;VS37;VS38;VS39;VS40;VS41;VS42;VS43;VS44;VS45;VS46;VS47;VS48;VS49;VS50;VS51;VS52
E0124;VS53;VS54;VS55;VS56;VS57;VS58;VS59;VS60;VS61;VS62;VS63;VS64;VS65;VS66;VS67;VS68;VS69;VS70
E0136;VS71;VS72;VS73;VS74;VS75;VS76;VS77;VS78;VS79;VS80;VS81;VS82;VS83;VS84;VS85;VS86;VS87;VS88
E0148;VS89;VS90;VS91;VS92;VS93;VS94;VS95;VS96;VS97;VS98;VS99;VS100;VS101;VS102;VS103;VS104;VS105
E0159;VS106;VS107;VS108;VS109;VS110;VS111;VS112;VS113;VS114;VS115;VS116;VS117;VS118;VS119;VS120
E0168;VS121;VS122;VS123;VS124;VS125;VS126;VS127;VS128;VS129;VS130;VS131;VS132;VS133;VS134;VS135
E0177;VS136;VS137;VS138;VS139;VS140;VS141;VS142;VS143;VS144;VS145;VS146;VS147;VS148;VS149;VS150
E0186;VS151;VS152;VS153;VS154;VS155;VS156;VS157;VS158;VS159;VS160;VS161;VS162;VS163;VS164;VS165
E0195;VS166;VS167;VS168;VS169;VS170;VS171;VS172;VS173;VS174;VS175;VS176;VS177;VS178;VS179;VS180
E01A4;VS181;VS182;VS183;VS184;VS185;VS186;VS187;VS188;VS189;VS190;VS191;VS192;VS193;VS194;VS195
E01B3;VS196;VS197;VS198;VS199;VS200;VS201;VS202;VS203;VS204;VS205;VS206;VS207;VS208;VS209;VS210
E01C2;VS211;VS212;VS213;VS214;VS215;VS216;VS217;VS218;VS219;VS220;VS221;VS222;VS223;VS224;VS225
E01D1;VS226;VS227;VS228;VS229;VS230;VS231;VS232;VS233;VS234;VS235;VS236;VS237;VS238;VS239;VS240
E01E0;VS241;VS242;VS243;VS244;VS245;VS246;VS247;VS248;VS249;VS250;VS251;VS252;VS253;VS254;VS255
E01EF;VS256
9;HT;END OF LgE;VT
E;SO;SI
1C;FS;GS;RS;US
88;HTS;HTJ;VTS;PLD;PLU;RI;SS2;SS3
91;PU1;PU2
96;SPA;EPA
FEFF;BOM
9;TAB;LF
FEFF;ZWNBSP
A;NL
A;EOL"

end ShapeMapper.Text.CharacterName
