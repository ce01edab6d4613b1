import Stencil.Text.Basic

/-!
# The table of character names

The names of all characters whose names follow no rule, in a compressed form.

## Main definitions

- `CharacterName.words` — words that many names have
- `CharacterName.entries` — the names in the order of the characters
- `CharacterName.aliases` — further names

## Design notes

An entry starts with one of the twelve `countMarks`: it tells how many words the name shares with the
name before it. The words that follow are spelled out or stand for a member of `words`: the letters `a`
to `j` for the first ten, two letters for each of the others. A blank separates two words that are
spelled out. The character is the one after that of the entry before, unless `@` and its number come
first. Line breaks mean nothing.
-/

namespace Stencil

namespace CharacterName

/-- The marks that start an entry, by the number of words that it shares with the one before. -/
def countMarks : String := "!#$%&()*+,.:"

/-- The words that have a code. -/
def words : String := "
LETTER WITH CAPITAL SMALL FORM ARROW SIGN RIGHT ABOVE ISOLATED RIGHTWARDS DOUBLE LEFTWARDS
VERTICAL TRIANGLE-HEADED INITIAL BELOW FINAL HORIZONTAL STROKE LEFT SYMBOL THREE BLACK DOWNWARDS
HUNDRED THOUSAND MIDDLE WHITE BRACKET CIRCUMFLEX WEST-CREE TRIANGLE AND GREATER-THAN MARK
DIAERESIS HEAVY ARROWHEAD SQUARE CIRCLE UPWARDS REVERSED EIGHT TIMES FOUR SEVEN HOOK LESS-THAN
YPOGEGRAMMENI FIVE PERISPOMENI INVERTED POINTING PUNCTUATION PARENTHESIS MEDIUM MEDIAL TURNED
PROSGEGRAMMENI EQUAL MAKSURA INDEX LIGHT VOWEL TWO ORNAMENT ROTATED TILDE DIGIT ONE LOWER MEEM
ANUSVARA DOT PLUS VOCALIC RETROFLEX ACUTE HALF RIGHT-POINTING SINGLE HARPOON DOWN DESCENDER
ASTERISK CANDRABINDU NINE COMBINING CIRCLED DIAGONAL DEGREES OPERATOR MACRON NUMBER UPPER FACE
THUMB DOTS DASIA OVER PSILI EXCLAMATION CENTRE LITTLE ALEF LARGE LEFT-POINTING EQUILATERAL GRAVE
QUOTATION RING DIAMOND LIGATURE BARB HAND-FIST ANTICLOCKWISE MOVEMENT-FLOORPLANE VARIA COMMA
CROSSING TRIPLE MOVEMENT-WALLPLANE SANS-SERIF ZERO VISARGA BLOCK MODIFIER ABBREVIATION POINTED
SQUARED QUESTION TRIANGULAR OPEN BREVE SEVENTY JEEM LONG SEPARATOR INTERSECTION QUARTER TONE
TWENTY VIRAMA ANGLE ALTERNATE CONSONANT ALTERNATING LATIN SHORT ACCENT SIX HIGH HITTING DOTTED
NINETY BAR STOP HAND-CIRCLE UNDERBAR NORTH C-SIMPLIFIED CEDILLA PALATAL STRAIGHT SUPERSET CLOSED
EQUALS HAND-HINGE CROSS DIGRAPH GLOTTAL UPSILON YENISEI CARON LINE IDEOGRAPHIC SOUTH EPSILON
BOTTOM CORNER EAST OXIA DOWN-POINTING MULTIPLICATION CONJOINED UP-POINTING YEH STAR FINGERS
SECTION SOLIDUS EQUIVALENT ORKHON OMEGA DOUBLE-STRUCK OVERLAY ARCHAION FRACTION INTEGRAL KNIGHT
SUPERSCRIPT TAIL KHAH WEST HAMZA NEUTRAL SLANTED VARIANT EIGHTH GUNU FULL TORTOISE RAISED
REVERSE SUBSET ALPHA COPTIC FIFTY LOW CHESS SCRIPT DIALYTIKA ARABIC-INDIC ARCHAIC AVAGRAHA COLON
HAH IOTIFIED SYLLABLE CRYPTOGRAMMIC DAGESH HAND-ANGLE DANDA INSULAR OMICRON CLOCKWISE HEART
NEGATIVE QUADRANT QUARTERS THIRTY TTHA MAHAAPRAANA TEN BETWEEN CROSSED-TAIL DASH FORWARD
SIMALUNGUN SMILING TENU TWO-HEADED CYRILLIC DDHA DIAMONDS TEARDROP-SPOKED SEMICOLON TELEPHONE
NOON CURLY SIGMA NGA SHA ALPAPRAANA ARABIC GREEK INSIDE MULTIPLE NUKTA PRECEDES SHADOWED
SUCCEEDS THETA EIGHTHS OBLIQUE QUADRUPLE SHELL ROTATION-FLOORPLANE SPOKED CHA HORN NOTEHEAD TACK
DOTLESS NYA THROUGH APOSTROPHE CHARACTERS HEARTS KHA ROTATION-WALLPLANE GAMMA INDEPENDENT
LEFT-STEM SHAFT SPACE ALMOST ARROWS CIRCLES CROSSED FROM HAND HINGED IOTA KATAKANA
KATAKANA-HIRAGANA LOGICAL LOZENGE MOUTH OVERBAR PERSON PRODUCT SAMEKH THA NOT BENT SHIN DELTA
BOLD CANDRA CHARACTER COMPRESSED EIGHTY ITERATION LAMEDH LENGTH LENTICULAR OGONEK KRYZHEM
MUSICAL POVYSHE KLYUCHEVAYA PHA SHEEN TONOS TWELFTHS VERY OLD BULLET SEEN SPADES TWELVE CURVE
FORTY KAPPA MINUS CARRIER DIFFERENTIAL FIFTEEN MATHEMATICAL MOON SALTIRE SIDE SUBSTITUTION
ABKHASIAN AMPERSAND CRESCENTS DIALECT-P EXTENSION INDICATOR MAHAPRANA SEVENTEEN THOUSANDS TTA
TURNSTILE ZAPYATAYA ALEPH CONTAINING DASHED DDA EIGHTEEN ENVELOPE GHAIN NEPOSTOYANNAYA PINWHEEL
RISING SIDEWAYS SIXTY SOUND SPREAD UNION VERTICALLY DHA GHA NUN DOUBLE-LINE ELEMENT GIMEL
INVERSE JIHVAMULIYA NASKAPI NUMERAL QUEEN ROUNDED SINGLE-LINE SIXTEEN SLASH SVARITA UPADHMANIYA
APPROXIMATELY ASH BISHOP DISH ELEVEN HYPHEN KASKAL LEFT-TO-RIGHT NNA OCLOCK TEDUNG Y-CREE BHA
BACKHAND BACKSLASH CONTAINS CURL DIVISION DODEKATA ELLIPSIS EXTENDED FOURTEEN LEAF MOUNTAIN
MOVEMENT NINETEEN"

/-- Further names of characters, each behind the number of its character. -/
def aliases : String := "
0=NUL;0=NULL;1=SOH;1=START OF HEADING;2=START OF TEXT;2=STX;3=END OF TEXT;3=ETX;
4=END OF TRANSMISSION;4=EOT;5=ENQ;5=ENQUIRY;6=ACK;6=ACKNOWLEDGE;7=ALERT;7=BEL;8=BACKSPACE;8=BS;
9=CHARACTER TABULATION;9=HORIZONTAL TABULATION;9=HT;9=TAB;A=END OF LINE;A=EOL;A=LF;A=LINE FEED;
A=NEW LINE;A=NL;B=LINE TABULATION;B=VERTICAL TABULATION;B=VT;C=FF;C=FORM FEED;D=CARRIAGE RETURN;
D=CR;E=LOCKING-SHIFT ONE;E=SHIFT OUT;E=SO;F=LOCKING-SHIFT ZERO;F=SHIFT IN;F=SI;
10=DATA LINK ESCAPE;10=DLE;11=DC1;11=DEVICE CONTROL ONE;12=DC2;12=DEVICE CONTROL TWO;13=DC3;
13=DEVICE CONTROL THREE;14=DC4;14=DEVICE CONTROL FOUR;15=NAK;15=NEGATIVE ACKNOWLEDGE;16=SYN;
16=SYNCHRONOUS IDLE;17=END OF TRANSMISSION BLOCK;17=ETB;18=CAN;18=CANCEL;19=END OF MEDIUM;19=EOM;
1A=SUB;1A=SUBSTITUTE;1B=ESC;1B=ESCAPE;1C=FILE SEPARATOR;1C=FS;1C=INFORMATION SEPARATOR FOUR;
1D=GROUP SEPARATOR;1D=GS;1D=INFORMATION SEPARATOR THREE;1E=INFORMATION SEPARATOR TWO;
1E=RECORD SEPARATOR;1E=RS;1F=INFORMATION SEPARATOR ONE;1F=UNIT SEPARATOR;1F=US;20=SP;7F=DEL;
7F=DELETE;80=PAD;80=PADDING CHARACTER;81=HIGH OCTET PRESET;81=HOP;82=BPH;82=BREAK PERMITTED HERE;
83=NBH;83=NO BREAK HERE;84=IND;84=INDEX;85=NEL;85=NEXT LINE;86=SSA;86=START OF SELECTED AREA;
87=END OF SELECTED AREA;87=ESA;88=CHARACTER TABULATION SET;88=HORIZONTAL TABULATION SET;88=HTS;
89=CHARACTER TABULATION WITH JUSTIFICATION;89=HORIZONTAL TABULATION WITH JUSTIFICATION;89=HTJ;
8A=LINE TABULATION SET;8A=VERTICAL TABULATION SET;8A=VTS;8B=PARTIAL LINE DOWN;
8B=PARTIAL LINE FORWARD;8B=PLD;8C=PARTIAL LINE BACKWARD;8C=PARTIAL LINE UP;8C=PLU;
8D=REVERSE INDEX;8D=REVERSE LINE FEED;8D=RI;8E=SINGLE SHIFT TWO;8E=SINGLE-SHIFT-2;8E=SS2;
8F=SINGLE SHIFT THREE;8F=SINGLE-SHIFT-3;8F=SS3;90=DCS;90=DEVICE CONTROL STRING;
91=PRIVATE USE ONE;91=PRIVATE USE-1;91=PU1;92=PRIVATE USE TWO;92=PRIVATE USE-2;92=PU2;
93=SET TRANSMIT STATE;93=STS;94=CANCEL CHARACTER;94=CCH;95=MESSAGE WAITING;95=MW;96=SPA;
96=START OF GUARDED AREA;96=START OF PROTECTED AREA;97=END OF GUARDED AREA;
97=END OF PROTECTED AREA;97=EPA;98=SOS;98=START OF STRING;99=SGC;
99=SINGLE GRAPHIC CHARACTER INTRODUCER;9A=SCI;9A=SINGLE CHARACTER INTRODUCER;
9B=CONTROL SEQUENCE INTRODUCER;9B=CSI;9C=ST;9C=STRING TERMINATOR;9D=OPERATING SYSTEM COMMAND;
9D=OSC;9E=PM;9E=PRIVACY MESSAGE;9F=APC;9F=APPLICATION PROGRAM COMMAND;A0=NBSP;AD=SHY;
1A2=LATIN CAPITAL LETTER GHA;1A3=LATIN SMALL LETTER GHA;34F=CGJ;61C=ALM;
709=SYRIAC SUBLINEAR COLON SKEWED LEFT;CDE=KANNADA LETTER LLLA;E9D=LAO LETTER FO FON;
E9F=LAO LETTER FO FAY;EA3=LAO LETTER RO;EA5=LAO LETTER LO;
FD0=TIBETAN MARK BKA- SHOG GI MGO RGYAN;11EC=HANGUL JONGSEONG YESIEUNG-KIYEOK;
11ED=HANGUL JONGSEONG YESIEUNG-SSANGKIYEOK;11EE=HANGUL JONGSEONG SSANGYESIEUNG;
11EF=HANGUL JONGSEONG YESIEUNG-KHIEUKH;180B=FVS1;180C=FVS2;180D=FVS3;180E=MVS;180F=FVS4;
200B=ZWSP;200C=ZWNJ;200D=ZWJ;200E=LRM;200F=RLM;202A=LRE;202B=RLE;202C=PDF;202D=LRO;202E=RLO;
202F=NNBSP;205F=MMSP;2060=WJ;2066=LRI;2067=RLI;2068=FSI;2069=PDI;
2118=WEIERSTRASS ELLIPTIC FUNCTION;2448=MICR ON US SYMBOL;2449=MICR DASH SYMBOL;
2B7A=LEFTWARDS TRIANGLE-HEADED ARROW WITH DOUBLE VERTICAL STROKE;
2B7C=RIGHTWARDS TRIANGLE-HEADED ARROW WITH DOUBLE VERTICAL STROKE;
A015=YI SYLLABLE ITERATION MARK;AA6E=MYANMAR LETTER KHAMTI LLA;
FE18=PRESENTATION FORM FOR VERTICAL RIGHT WHITE LENTICULAR BRACKET;FEFF=BOM;FEFF=BYTE ORDER MARK;
FEFF=ZWNBSP;122D4=CUNEIFORM SIGN NU11 TENU;122D5=CUNEIFORM SIGN NU11 OVER NU11 BUR OVER BUR;
16E56=MEDEFAIDRIN CAPITAL LETTER H;16E57=MEDEFAIDRIN CAPITAL LETTER NG;
16E76=MEDEFAIDRIN SMALL LETTER H;16E77=MEDEFAIDRIN SMALL LETTER NG;1B001=HENTAIGANA LETTER E-1;
1D0C5=BYZANTINE MUSICAL SYMBOL FTHORA SKLIRON CHROMA VASIS"

/-- The names of the characters. -/
def entries : String := "
@20!va!nokz!nwkz!ngg!DOLLARg!PERCENTg!xi!ur!kklt!hlt!mx!mng!of!HYPHEN-MINUS!rtpr!qz!mhok#mi#md#k
m#lj#lo#pl#lk#lh#mz!si!tn!lmg!qbg!kyg!orkz!COMMERCIAL AT!picaA%B%C%D%E%F%G%H%I%J%K%L%M%N%O%P%Q%R
%S%T%U%V%W%X%Y%Z!kkldkt!rwqz!hldkt!kupk!sbqj!nvpk!pidaA%B%C%D%E%F%G%H%I%J%K%L%M%N%O%P%Q%R%S%T%U%
V%W%X%Y%Z!kktqkt!kdqj!htqkt!mg@A0!NO-BREAKva!lqnokz!CENTg!POUNDg!CURRENCYg!YENg!BROKENpq!qyg!la!
COPYRIGHTg!FEMININE ORDINALxm!ntkbpenwkz!vtg!SOFTzf!REGISTEREDg!nf!DEGREEg!PLUS-MINUSg!rjmd#km!m
qpk!MICROg!PILCROWg!krmm!pw!rjmi!MASCULINE ORDINALxm!mskbpenwkz!VULGARrgmipa%mr$kmsw!lqorkz!pica
Abnv(mq(ku(mg(la(nxi%AE%Cbpw%Ebnv(mq(ku(la%Ibnv(mq(ku(la%ETH%Nbmg%Obnv(mq(ku(mg(la!qsg!picaObkj%
Ubnv(mq(ku(la%Ybmq%THORN#daSHARP S%Abnv(mq(ku(mg(la(nxi%AE%Cbpw%Ebnv(mq(ku(la%Ibnv(mq(ku(la%ETH%
Nbmg%Obnv(mq(ku(mg(la!zrg!pidaObkj%Ubnv(mq(ku(la%Ybmq%THORN%Ybla#caAbnf#daAbnf#caAbou#daAbou#caA
bwg#daAbwg#caCbmq#daCbmq#caCbku#daCbku#caCbmmi#daCbmmi#caCbqi#daCbqi#caDbqi#daDbqi#caDbkj#daDbkj
#caEbnf#daEbnf#caEbou#daEbou#caEbmmi#daEbmmi#caEbwg#daEbwg#caEbqi#daEbqi#caGbku#daGbku#caGbou#da
Gbou#caGbmmi#daGbmmi#caGbpw#daGbpw#caHbku#daHbku#caHbkj#daHbkj#caIbmg#daIbmg#caIbnf#daIbnf#caIbo
u#daIbou#caIbwg#daIbwg#caIbmmi#dauoI#cnzIJ#dnzIJ#caJbku#daJbku#caKbpw#daKbpw%KRA#caLbmq#daLbmq#c
aLbpw#daLbpw#caLbqi#daLbqi#caLbkrmm#daLbkrmm#caLbkj#daLbkj#caNbmq#daNbmq#caNbpw#daNbpw#caNbqi#da
Nbqi&PRECEDED BYur#caENG#daENG#caObnf#daObnf#caObou#daObou#caObkbmq#daObkbmq#cnzOE#dnzOE#caRbmq#
daRbmq#caRbpw#daRbpw#caRbqi#daRbqi#caSbmq#daSbmq#caSbku#daSbku#caSbpw#daSbpw#caSbqi#daSbqi#caTbp
w#daTbpw#caTbqi#daTbqi#caTbkj#daTbkj#caUbmg#daUbmg#caUbnf#daUbnf#caUbou#daUbou#caUbnxi#daUbnxi#c
aUbkbmq#daUbkbmq#caUbwg#daUbwg#caWbku#daWbku#caYbku#daYbku#caYbla%Zbmq#daZbmq#caZbmmi#daZbmmi#ca
Zbqi#daZbqi%oxS%Bbkj#caBbll(TOPBAR#daBbTOPBAR#capbpl#dapbpl#caotO%Cbll#daCbll#caAFRICAN D%Dbll(T
OPBAR#daDbTOPBAR%lwvw#calgE%SCHWA%otE%Fbll#daFbll#caGbll%uw#daHV#cavi%Ibkj%Kbll#daKbll%Lbpq%LAMB
DAbkj#calwM%Nbkkll#daNboxhLEG#caObkrmg(ul#daObul#caOI#daOI#caPbll#daPbll#aYR#capbmd#dapbmd#caESH
#algESH LOOP#daTbpxll#caTbll#daTbll#caTbmpll%Ubul#daUbul#caqg%Vbll%Ybll#daYbll#caZbkj#daZbkj#caE
ZH&lg#daEZHlg&brk#amdbkj#capblo#dapblo#alqqfprbkj$WYNN$DENTAL CLICK$LATERAL CLICK$ALVEOLAR CLICK
$mpCLICK#caDZbqi%DbdaZbqi#daDZbqi#caLJ%LbdaJ#daLJ#caNJ%NbdaJ#daNJ#caAbqi#daAbqi#caIbqi#daIbqi#ca
Obqi#daObqi#caUbqi#daUbqi#caUblakxnf#daUblakxnf#caUblakxmq#daUblakxmq#caUblakxqi#daUblakxqi#caUb
lakxnv#daUblakxnv%lwE#caAblakxnf#daAblakxnf#caAbmmikxnf#daAbmmikxnf#caAEbnf#daAEbnf#caGbkj#daGbk
j#caGbqi#daGbqi#caKbqi#daKbqi#caObwg#daObwg#caObwgkxnf#daObwgkxnf#caEZHbqi#daEZHbqi%Jbqi#caDZ%Db
daZ#daDZ#caGbmq#daGbmq#caHWAIR%WYNN%Nbnv#daNbnv#caAbnxikxmq#daAbnxikxmq#caAEbmq#daAEbmq#caObkjkx
mq#daObkjkxmq#caAbkbnv#daAbkbnv#caAblqou#daAblqou#caEbkbnv#daEbkbnv#caEblqou#daEblqou#caIbkbnv#d
aIbkbnv#caIblqou#daIblqou#caObkbnv#daObkbnv#caOblqou#daOblqou#caRbkbnv#daRbkbnv#caRblqou#daRblqo
u#caUbkbnv#daUbkbnv#caUblqou#daUblqou#caSbofkg#daSbofkg#caTbofkg#daTbofkg#caYOGH#daYOGH#caHbqi#d
aHbqi#caNboxhLEG#daDbzq#caOU#daOU#caZbll#daZbll#caAbmmi#daAbmmi#caEbpw#daEbpw#caOblakxnf#daOblak
xnf#caObmgkxnf#daObmgkxnf#caObmmi#daObmmi#caObmmikxnf#daObmmikxnf#caYbnf#daYbnf%Lbzq%Nbzq%Tbzq%u
oJ%DBqe%QPqe#caAbkj%Cbkj#daCbkj#caLbpq%Tbnckj#daSbSWASHrk%ZbSWASHrk#caqfpr#daqfpr#caBbkj%Upq%lwV
%Ebkj#daEbkj#caJbkj#daJbkj#cadQbllrk#daQbllrk#caRbkj#daRbkj#caYbkj#daYbkj%lwA%ry%lwry%Bbll%otO%C
bzq%Dbrk(ll%lgE%SCHWA&bll%otE%lgotE)bll%qalgotE%uoJbkj%Gbll%sdG#adcG#dauw%RAMSul%lwH%Hbll%HENGbl
l%Ibkj%vi#adcI#daLbkrmg(BELT(mpll%LEZH%lwM(boxLEG%Mbll%Nbkkll(mpll#adcN#daBARRED O#adcOE#daqarc%
PHI%lwR(boxLEG)ll%RboxLEG(rk(FISHHOOK%lgRbFISHHOOK#adcR&lqR#daSbll%ESH%uoJbkjkxll%SQUATlgESH%ESH
bzq%lwT%Tbmpll%Upq%qg%Vbll%lwV&W&Y#adcY#daZbmpll(zq%EZH&bzq#aqfpr$PHARYNGEAL VOICED FRICATIVE$lq
qfpr$STRETCHED C$BILABIAL CLICK$dcB#daqaotE#adcGbll&H#daJbtc%lwK#adcL#daQbll#aqfprbkj$lgqfprbkj#
daDZqe%DEZHqe%DZqebzq%TSqe%TESHqe%TCqebzq%FENGqe%LSqe%LZqe#aBILABIAL PERCUSSIVE$BIDENTAL PERCUSS
IVE#dalwHbFISHHOOK*kxrk!onadH&bll%J%R%lwR(bll%clqR%W%Y$PRIME$kbPRIME$lwof$ur$lgof$hmrnx$kkmrnx$q
fpr$lgqfpr$kklc$hlc$UPlc$mvlc$kupk!qi!onakdqj$nf$mqpk$nvpk$sbkdqj%nf%nvpk%mqpk$ossi$mrossi$CENTR
EDhmrnx%kkmrnx$UPun$mvun$mng$wyg!ou!mmi!nxi!wg!dmg!kbmqpk!onaRHOTICll$qdpk$duw%L%S%X%lgqfpr$EXTR
A-HIGHpbpq$pmpbpq$MIDpbpq$sbpbpq$EXTRA-LOWpbpq$YIN DEPARTINGpbkz$YANG DEPARTINGpbkz$VOICING$UNAS
PIRATED$kbur$sbmvlc%UPlc%kklc%hlc%nx$krnvpk%kbnvpk&mqpk$sbmg$rvsi$BEGINpmpb$ENDpmpb$BEGINsbpb$EN
Dsbpb$SHELF$otSHELF$sbkkf!nanvpk#mqpk#kupk#mg#nf#OVERLINE#ou#mmi#la#lli#nxi#kbmqpk#qi#kdqji#kbkd
qji$nvpk#my#lqou#lwofi#ofi#lgofi#ofih#nvpkkg#mqpkkg#kkunkg#hunkg#kkpei#ul#kkmrnxkg#UPunkg#mvunkg
#mngkg#wygkg#PALATALIZEDllkg#mpllkg#mmkg#lakg#nxkg#ofkg#pw#wg#kdqjkg#BRIDGEkg#lqkbARCHkg#qikg#ku
pkkg#oukg#lqoukg#mgkg#nfkg#sbqj#kbsbqj#mgre#pjkjre#oxkjre#pjqzre#oxqzre#hmrnxkg#lqBRIDGEkg#ldkg#
SEAGULLkg#Xi#kdmg#kbOVERLINE#nvpbkz#mqpbkz#twlp$KORONIS$sewn$ln#BRIDGEi#qbgkg#kbkdqjkg#kkpekg#vt
mgi#HOMOTHETICi#vblyTOi#kkhfkg#lffkg#GRAPHEME JOINER#hlci#kkmrnxi#FERMATA#Xkg#kklckg#hlckg%kxUPl
ckg$mrnxi#mmih#mxkg#kbnxkg#ZIGZAGi#kboukg%$nf%kg$mg$lqou$kafkg#pidaA&E&I&O&U&C&D&H&M&R&T&V&X!twc
aHETA#daHETA#casgSAMPI#dasgSAMPI#ysg#mjysg#caPAMPHYLIAN DIGAMMA#daPAMPHYLIAN DIGAMMA@37A#ln#dlgL
UNATEtrkl$poLUNATEtrkl$lgpoLUNATEtrkl#orkz#caYOT@384#wn#sewn#carybwn#ANO TELEIA#caqmbwn%ETAbwn%v
ibwn@38C%srbwn@38E%qgbwn%rcbwn#davibsekxwn#cary%BETA%uw%vw%qm%ZETA%ETA%ud%vi%wx%LAMDA%MU%NU%XI%s
r%PI%RHO@3A3%tr%TAU%qg%PHI%CHI%PSI%rc%vibse%qgbse#darybwn%qmbwn%ETAbwn%vibwn%qgbsekxwn%ry%BETA%u
w%vw%qm%ZETA%ETA%ud%vi%wx%LAMDA%MU%NU%XI%sr%PI%RHO%khtr%tr%TAU%qg%PHI%CHI%PSI%rc%vibse%qgbse%srb
wn%qgbwn%rcbwn#cKAIkl#BETAkl#udkl#qgbllkl%mqkxllkl%lakxllkl#PHIkl#PIkl#KAIkl#asgKOPPA#dasgKOPPA#
aSTIGMA#daSTIGMA#aDIGAMMA#daDIGAMMA#aKOPPA#daKOPPA#aSAMPI#daSAMPI!rzcaSHEI#daSHEI#caFEI#daFEI#ca
KHEI#daKHEI#caHORI#daHORI#caGANGIA#daGANGIA#caSHIMA#daSHIMA#caDEI#daDEI!twwxkl#RHOkl#LUNATEtrkl#
aYOT#cudkl#LUNATEqmkl#lgLUNATEqmkl#caSHO#daSHO#cLUNATEtrkl$aSAN#daSAN#RHObkjkl#clgLUNATEtrkl$poL
UNATEtrkl$lgpoLUNATEtrkl!tjcaIEbnv%IO%DJE%GJE%UKRAINIAN IE%DZE%BYELORUSSIAN-UKRAINIAN I%YI%JE%LJ
E%NJE%TSHE%KJE%Ibnv%pjU%DZHE%A%BE%VE%GHE%DE%IE%ZHE%ZE%I%pjI%KA%EL%EM%EN%O%PE%ER%ES%TE%U%EF%HA%TS
E%CHE%tt%SHCHA%HARDg%YERU%SOFTg%E%YU%YA#daA%BE%VE%GHE%DE%IE%ZHE%ZE%I%pjI%KA%EL%EM%EN%O%PE%ER%ES%
TE%U%EF%HA%TSE%CHE%tt%SHCHA%HARDg%YERU%SOFTg%E%YU%YA%IEbnv%IO%DJE%GJE%UKRAINIAN IE%DZE%BYELORUSS
IAN-UKRAINIAN I%YI%JE%LJE%NJE%TSHE%KJE%Ibnv%pjU%DZHE#carc#darc#caYAT#daYAT#caskE#daskE#canqYUS#d
anqYUS#casknqYUS#dasknqYUS#caBIG YUS#daBIG YUS#caskBIG YUS#daskBIG YUS#caKSI#daKSI#caPSI#daPSI#c
aFITA#daFITA#caIZHITSA#daIZHITSA#caIZHITSAbkbnvpk#daIZHITSAbkbnvpk#caUK#daUK#caROUNDrc#daROUNDrc
#carcbTITLO#darcbTITLO#caOT#daOT#caKOPPA#daKOPPA#xpg!natjTITLO$PALATALIZATION$nlPNEUMATA$nnPNEUM
ATA$POKRYTIE$kpxpg$MILLIONSg!tjcapjIbrk#dapjIbrk#caSEMISOFTg#daSEMISOFTg#caERbTICK#daERbTICK#caG
HEbUPTURN#daGHEbUPTURN#caGHEbkj#daGHEbkj#caGHEbkrll#daGHEbkrll#caZHEbmw#daZHEbmw#caZEbmw#daZEbmw
#caKAbmw#daKAbmw#caKAbkdkj#daKAbkdkj#caKAbkj#daKAbkj#caBASHKIR KA#daBASHKIR KA#caENbmw#daENbmw#c
nzEN GHE#dnzEN GHE#caPEbkrll#daPEbkrll#caxhHA#daxhHA#caESbmw#daESbmw#caTEbmw#daTEbmw#capyU#dapyU
#capyUbkj#dapyUbkj#caHAbmw#daHAbmw#cnzTE TSE#dnzTE TSE#caCHEbmw#daCHEbmw#caCHEbkdkj#daCHEbkdkj#c
aSHHA#daSHHA#caxhCHE#daxhCHE#caxhCHEbmw#daxhCHEbmw#aPALOCHKA#caZHEbou#daZHEbou#caKAbll#daKAbll#c
aELbrk#daELbrk#caENbll#daENbll#caENbrk#daENbrk#caKHAKASSIAN CHE#daKHAKASSIAN CHE#caEMbrk#daEMbrk
%PALOCHKA#caAbou#daAbou#caAbla#daAbla#cnzA IE#dnzA IE#caIEbou#daIEbou#caSCHWA#daSCHWA#caSCHWAbla
#daSCHWAbla#caZHEbla#daZHEbla#caZEbla#daZEbla#caxhDZE#daxhDZE#caIbnf#daIbnf#caIbla#daIbla#caObla
#daObla#caBARRED O#daBARRED O#caBARRED Obla#daBARRED Obla#caEbla#daEbla#caUbnf#daUbnf#caUbla#daU
bla#caUbkbmq#daUbkbmq#caCHEbla#daCHEbla#caGHEbmw#daGHEbmw#caYERUbla#daYERUbla#caGHEbkjkxll#daGHE
bkjkxll#caHAbll#daHAbll#caHAbkj#daHAbkj#caKOMI DE#daKOMI DE#caKOMI DJE#daKOMI DJE#caKOMI ZJE#daK
OMI ZJE#caKOMI DZJE#daKOMI DZJE#caKOMI LJE#daKOMI LJE#caKOMI NJE#daKOMI NJE#caKOMI SJE#daKOMI SJ
E#caKOMI TJE#daKOMI TJE#calgZE#dalgZE#caELbll#daELbll#caLHA#daLHA#caRHA#daRHA#caYAE#daYAE#caQA#d
aQA#caWE#daWE#caALEUT KA#daALEUT KA#caELbkrll#daELbkrll#caENbkrll#daENbkrll#caPEbmw#daPEbmw#caSH
HAbmw#daSHHAbmw#caENbkkll#daENbkkll#caDZZHE#daDZZHE#caDCHE#daDCHE#caELbmw#daELbmw@531!ARMENIANca
AYB%BEN%GIM%DA%ECH%ZA%EH%ET%TO%ZHE%INI%LIWN%XEH%CA%KEN%HO%JA%GHAD%CHEH%MEN%YI%NOW%tt%VO%uk%PEH%J
HEH%RA%SEH%VEW%TIWN%REH%CO%YIWN%PIWR%KEH%OH%FEH@559#onakkmrnx#ur#EMPHASISkz#nokz#of#orkz#ookz#da
lwAYB%AYB%BEN%GIM%DA%ECH%ZA%EH%ET%TO%ZHE%INI%LIWN%XEH%CA%KEN%HO%JA%GHAD%CHEH%MEN%YI%NOW%tt%VO%uk
%PEH%JHEH%RA%SEH%VEW%TIWN%REH%CO%YIWN%PIWR%KEH%OH%FEH$nzECH YIWN$aYIbkj#rtpr#zf@58D!RIGHT-FACIN
G ARMENIAN ETERNITYg!LEFT-FACING ARMENIAN ETERNITYg!ARMENIAN DRAMg@591!HEBREWpkETNAHTA$SEGOL$SHA
LSHELET$ZAQEF QATAN%GADOL$TIPEHA$REVIA$ZARQA$PASHTA$YETIV$TEVIR$GERESH%MUQDAM$GERSHAYIM$QARNEY P
ARA$TELISHA GEDOLA$PAZER$ATNAH HAFUKH$MUNAH$MAHAPAKH$MERKHA%KEFULA$DARGA$QADMA$TELISHA QETANA$YE
RAH BEN YOMO$OLE$ILUY$DEHI$ZINOR#kzMASORAle#POINT SHEVA$HATAF SEGOL%PATAH%QAMATS$HIRIQ$TSERE$SEG
OL$PATAH$QAMATS$HOLAM%HASER FOR VAV$QUBUTS$snOR MAPIQ$METEG#lsMAQAF#POINT RAFE#lsPASEQ#POINTvvmm
$SINmm#lsSOF PASUQ#kznhmm$mjmm#lsylHAFUKHA#POINT QAMATS QATAN@5D0#anr$BET$yo$DALET$HE$VAV$ZAYIN$
HET$TET$YOD$khKAF$KAF$LAMED$khMEM$MEM$khyl$yl$vr$AYIN$khPE$PE$khTSADI$TSADI$QOF$RESH$vv$TAV@5EF#
YODkw#nzYIDDISHkbVAV%VAV YOD%kbYOD#lsGERESH$GERSHAYIM@600!tvngg#gSANAH#FOOTNOTE MARKER#gSAFHA$SA
MVAT#ngkzi!sfCUBE ROOT#FOURTH ROOT!tvRAY!sfPER MILLEg$takqg!AFGHANIg!tvof#DATEoy#POETIC VERSEg#g
MISRA$SALLALLAHOU ALAYHE WASSALLAM$ALAYHE ASSALLAM$RAHMATULLAH ALAYHE$RADI ALLAHOU ANHU$TAKHALLU
S#dpmTAH%nznrbLAMbqv%ZAIN$FATHA$DAMMA$KASRA#tn#akz#END OF TEXTkz#ohmmlskz#orkz#aKASHMIRIqv$rn$nr
bMADDAi&rni$WAWbrni$nrbrnkg$qvbrni$nr$BEH$TEH MARBUTA%$THEH$ow$sj$rl$DAL$THAL$REH$ZAIN$ws$wm$SAD
$DAD$TAH$ZAH$AIN$xz$KEHEHbmdnki&kmnkkg$FARSIqvblqV(mdnki(kmnki#TATWEEL#aFEH$QAF$KAF$LAM$mk$tp$HE
H$WAW$nrlz$qv#FATHATAN#DAMMATAN#KASRATAN#FATHA#DAMMA#KASRA#SHADDA#SUKUN#MADDAHi#rni$kg#SUBSCRIPT
nr#lqDAMMA#kztpGHUNNA#ZWARAKAY#mcgdVi%lqdVi%mmkg#lgDAMMA#FATHAbmdnk#WAVYrnkg!sfmhok$mi$md$km$lj$
lo$pl$lk$lh$mz!tvPERCENTg#DECIMALoy#xpoy#loopqw#auoBEH%QAF$rjnr$nrWASLA%bWAVYrni)kg$pmrn&nr&WAW$
Ubrni$pmrnqv$TTEH$TTEHEH$BEEH$TEHbnx&kmnkiko$PEH$TEHEH$BEHEH$sjbrni&mdnkkdi$NYEH$DYEH$sjbkmnki$T
CHEH$TCHEHEH$DDAL$DALbnx&mmkg)kxdTAH$DAHAL$DDAHAL$DUL$DALbkmnkiko&ljnki$RREH$REHbdV&nx&mmkg&dVkg
&mmkgkxmmi&mdnki$JEH$REHbljnki$wsbmmkgkxmmi&kmnkkg*kxkmnki$SADbmdnkkg&kmnki$TAHbkmnki$AINbkmnki$
uoFEH$FEHbmmMOVEDkg(kg$VEH$FEHbkmnkkg$PEHEH$QAFbmmi&kmnki$KEHEH$SWASH KAF$KAFbnx&mmi$NG$KAFbkmnk
kg$GAF%bnx$NGOEH$GAFbmdnkkg$GUEH$GAFbkmnki$LAMbdV&mmi&kmnki)kg$tpbmmkg%GHUNNA$RNOON$tpbnx&kmnki$
HEH DOACHASHMEE$TCHEHbmmi$HEHbqvi%GOAL&brni$TEH MARBUTA GOAL$WAWbnx$KIRGHIZ OE$OE$U$YU$KIRGHIZ Y
U$WAWbmdnki$VE$FARSIqv$qvbrk&dV$WAWbmmi$E$qvbkmnkkg%BARREE&brni#rtpr#aAE#dpmnzSADbLAMbnrlz&QAFbL
AMbnrlz%mkkfe%LAMnr%ow%kmnk%ws#END OF AYAH#START OF RUB EL HIZB#dpmyuok%UPRIGHT RECTANGULARok%uo
HEAD OFrl%mkje$sbws$pmMADDA$WAW$qv$pmqv%tp#PLACE OF SAJDAH#EMPTYnpsbpr%pmpr#yupmprbFILLEDnp#dsbm
k#aDALblqV$REHblqV!zusfmhok%mi%md%km%lj%lo%pl%lk%lh%mz!tvawmbmmkg$DADbmmkg$xzbmmkg#gSINDHIxi%POS
TPOSITION MEN#aHEHblqV!SYRIAC END OF PARAGRAPH#SUPRALINEARrtpr#SUBLINEARrtpr#SUPRALINEARsi#SUBLI
NEARsi#kisi#siSKEWEDkk%h#SUPRALINEARsiSKEWEDkk#SUBLINEARsiSKEWEDh#CONTRACTION#HARKLEAN OBELUS$ME
TOBELUS$ASTERISCUS@70F#ookz#aALAPH$rjALAPH$BETH$GAMAL%GARSHUNI$DALATH$uoDALATH RISH$HE$WAW$ZAIN$
HETH$TETH%GARSHUNI$YUDH%HE$KAPH$LAMADH$MIM$yl$SEMKATH$khSEMKATH$E$PE$lgPE$SADHE$QAPH$RISH$vv$TAW
$PERSIAN BHETH%GHAMAL%DHALATH#PTHAHAi$kg$po#ZQAPHAi$kg$po#RBASAi$kg#poZLAMAki%ANGULAR#HBASAi$kg#
HBASA-ESASApo#ESASAi$kg#RWAHA#FEMININEmm#QUSHSHAYA#RUKKAKHA#mdkdnki&kg#kmnki%kg#ufqji%kg#MUSIC#B
ARREKH@74D#aSOGDIAN ZHAIN%KHAPH%FE!tvaBEHbkmnkHORIZONTALLYkg&mmkgkxkmnki&kmnklrlfkg,kxmdnki&mdnk
kgkxmmi&lqdVkg&dV$sjbmdnki&kmnklrlfkg$DALbmdnkyikgkxdTAH&lqdVkg$REHbkj$wsbljnki$AINbmdnki&kmnklr
koi&mdnkyii$FEHbmdnkkg&kmnklrlfkg$KEHEHbmmi&kmnki)lrlfkg$mkbmmi(kg$tpbmdnkkg&dTAH(V$LAMbpq$REHbm
dnkyii&rni$wsbmdnkyii$sjbdtvaTAHkg+kxmdnk$wsbdtvaTAHkxmdnk$REHbdtvaTAHkxmdnk$sjbdtvaTAHi$nrbzusf
mhmdi*kmi$FARSIqvbzusfmhmdi+kmi+ljkg$WAWbzusfmhmdi*kmi$qvBARREEbzusfmhmdi+kmi$sjbzusfmhljkg$wsbz
usfmhlji&lqV$KAFbmdnki!THAANAaHAA$SHAVIYANI$NOONU$RAA$BAA$LHAVIYANI$KAAFU$ALIFU$VAAVU$MEEMU$FAAF
U$DHAALU$THAA$LAAMU$GAAFU$GNAVIYANI$SEENU$DAVIYANI$ZAVIYANI$TAVIYANI$YAA$PAVIYANI$JAVIYANI$CHAVI
YANI$TTAA$HHAA$KHAA$THAALU$ZAA$SHEENU$SAADHU$DAADHU$TO$ZO$AINU$GHAINU$QAAFU$WAAVU#ABAFILI#AABAAF
ILI#IBIFILI#EEBEEFILI#UBUFILI#OOBOOFILI#EBEFILI#EYBEYFILI#OBOFILI#OABOAFILI#SUKUN#aNAA@7C0!NKOmh
ok$mi$md$km$lj$lo$pl$lk$lh$mz#aA$EE$I$E$U$OO$O$DAGBASINNA$N$BA$PA$TA$JA$uk$DA$RA$RRA$SA$GBA$FA$K
A$LA$NA WOLOSO$MA$up$NA$HA$WA$YA$upWOLOSO$JONA JA%uk%RA#napjpmpb%sbpb%ycpb$oxDESCENDINGpb%pmpb%s
bpb%ycpb$NASALIZATIONkz$kbmmi#pmpbur#sbpbur#klOO DENNEN$GBAKURUNEN#of#nokz#LAJANYALAN@7FD#DANTAY
ALAN#DOROMEg#TAMANg!SAMARITANaALAF$BIT$GAMAN$DALAT$IY$BAA$ZEN$IT$TIT$YUT$KAAF$LABAT$MIM$yl$SINGA
AT$IN$FI$TSAADIY$QUF$RISH$SHAN$TAAF#kzIN$IN-ALAF$OCCLUSION$sn#onaEPENTHETIC YUT#kzEPENTHETIC YUT
#mcgoxE%E%OVERLONG AA%oxAA%AA%OVERLONG A%oxA%A#onapjA#mcgpjA%oxU%U#onaI#mcgoxI%I%O%SUKUN#kzNEQUD
AA@830#lsNEQUDAA$AFSAAQ$ANGED$BAU$ATMAAU$SHIYYAALAA#ookz#lsMELODIC QITSA$ZIQAA$QITSA$ZAEF$TURU$A
RKAANU$SOF MASHFAAT$ANNAAU@840!MANDAICaHALQA$AB$AG$AD$AH$USHENNA$AZ$IT$ATT$AKSA$AK$AL$AM$AN$AS$I
N$AP$ASZ$AQ$AR$zb$AT$DUSHENNA$KAD$AIN#AFFRICATIONkz#VOCALIZATIONkz#GEMINATIONkz@85E#ls@860!SYRIA
CaMALAYALAMts%JA%up%xq%zi%NNNA%zm%RA%LLA%LLLA%SSA@870!tvanrbATTACHED FATHA(TOPhFATHA&hkrkj&kkkrk
j&ATTACHED KASRA(qnhKASRA(ROUNDmmi(hROUNDmm(kkROUNDmm(ROUNDmmkg&mmi&ATTACHED TOPhFATHAkxmmi&hkrk
jkxmmi&ATTACHEDqnhKASRAkxmmi(TOPhFATHAkxkknx&hkrkjkxkknx&ATTACHEDqnhKASRAkxkknx(hrn(kkrn#TATWEEL
bOVERSTRUCKrn&WAW%mdnkkg#aTHINqv#BASELINE ROUNDmm#rvROUNDmm#atpblqdV$sjblqdVkg$TAHbmmkg&kmnkkg$K
EHEHbmdnkyikg#kdrk@890#POUNDkzi#PIASTREkzi@898#dpmWORD AL-JUZ$sbWORD ISHMAAM&IMAALA&TASHEEL#MADD
A WAAJIB#rjnrMOKHASSAS#DOUBLED MADDA#mrMADDAnmMADDA#aBEHbdVkg&rni$owbmdnki$TAHbmdnki$FEHbmmkgkxk
mnki$QAFbmmkg$LAMbkbpq$mkbkmnki$qvbmdnkkgkxrni+mmi$REHbLOOP$WAWbmmWITHIN$ROHINGYAqv$sbnr$DALbkmn
kkg$SADbkmnkkg$GAFblqkj$pyWAW$ZAINblqVi$AINbkmnkkg$KAFbmmkg$QAFbmmkgkxNOnki$BEHbdmki$PEHbdmki$TE
HbdTEHi$REHbdtpi$qvbmdnkkgkxdtpi$AFRICAN FEH%QAF%tp$PEHbdV$TEHbdV$TTEHbdV$TCHEHbdV$KEHEHbdV$xzbk
mnki$AFRICAN QAFbkmnki$owbkmnki)kg$LAMbdtvaTAHi$GRAF#dFARSIqv$pmFARSIqv%qvBARREEbmdnkkg%WORD SAH
%ZAH#nsROUNDmmi&kg#SUKUNkg#nslekg$ROUNDmmtxlekg#dsbWAW$pmWORD AR-RUB%SAD%AIN%QAF%tpbKASRA$sbtpbK
ASRA$pmWORD ATH-THALATHA&AS-SAJDA&AN-NISF&SAKTA&QIF&WAQFA%FOOTNOTE MARKER%gSAFHA#DISPUTED END O
F AYAH#lwDAMMAkg#tqFATHA$DAMMA$KASRA$FATHATAN$DAMMATAN$KASRATAN#pbmimmi$mdnki$LOOPi$mimmkg$mdnkk
g$LOOPkg#otFATHATAN$DAMMATAN$KASRATAN#dpmWAW#FATHAbnx%mmi#KASRAbmmkg#kklci#hlci#kklckg#hlckg#kbh
lci(bmm#hlcibmm#DAMMAbmm#kzydtpGHUNNA!DEVANAGARIglqmy$my$ml$ol#apjA$A$AA$I$II$U$UU$moR%L$vyE$pjE
$E$AI$vyO$pjO$O$AU$KA$uu$GA$yk$ts$CA$uk$JA$JHA$up$xq$sy$xw$tk$zi$TA$vs$DA$yj$NA$NNNA$PA$wl$BA$zm
$MA$YA$RA$RRA$LA$LLA$LLLA$VA$tt$SSA$SA$HA#mcgOE%OOE#gtz$sh#mcgAA%I%II%U%UU%moR&RR%vyE%pjE%E%AI%v
yO%pjO%O%AU#gpd#mcgPRISHTHAMATRA E%AW#OM#STRESSgUDATTA%ANUDATTA#nvpk#mqpk#mcgvyoxE%UE%UUE#aQA$KH
HA$GHHA$ZA$DDDHA$RHA$FA$YYA$moRR%LL#mcgmoL&LL#sp#kbsp#mhok$mi$md$km$lj$lo$pl$lk$lh$mz#oog#gpmSPA
CINGmm#avyA$OE$OOE$AW$UE$UUE$MARWARIxw$ZHA$lbYA$GGA$JJA$qfpr$DDDA$BBA!BENGALI ANJI#gmy$ml$ol@985
#aA$AA$I$II$U$UU$moR%L@98F$E$AI@993$O$AU$KA$uu$GA$yk$ts$CA$uk$JA$JHA$up$xq$sy$xw$tk$zi$TA$vs$DA$
yj$NA@9AA$PA$wl$BA$zm$MA$YA$RA@9B2$LA@9B6$tt$SSA$SA$HA@9BC#gtz$sh#mcgAA%I%II%U%UU%moR&RR@9C7%E%A
I@9CB%O%AU#gpd#aKHANDA TA@9D7#AUwekz@9DC#aRRA$RHA@9DF$YYA$moRR%LL#mcgmoL&LL@9E6#mhok$mi$md$km$lj
$lo$pl$lk$lh$mz#aRAbkrnc&mjnc#RUPEEkz$g#CURRENCY NUMERATORmi%md%km%lj%miLESS THAN THE DENOMINATO
R$DENOMINATORyw#ISSHAR#GANDAkz#aVEDICml#oog#SANDHIkz@A01!GURMUKHIgADAK BINDI$BINDI$ol@A05#aA$AA$
I$II$U$UU@A0F$EE$AI@A13$OO$AU$KA$uu$GA$yk$ts$CA$uk$JA$JHA$up$xq$sy$xw$tk$zi$TA$vs$DA$yj$NA@A2A$P
A$wl$BA$zm$MA$YA$RA@A32$LA$LLA@A35$VA$tt@A38$SA$HA@A3C#gtz@A3E#mcgAA%I%II%U%UU@A47%EE%AI@A4B%OO%
AU#gpd@A51$UDAAT@A59#aKHHA$GHHA$ZA$RRA@A5E$FA@A66#mhok$mi$md$km$lj$lo$pl$lk$lh$mz#TIPPI#ADDAK#IR
I#URA#EK ONKAR#gYAKASH#oog@A81!GUJARATIgmy$ml$ol@A85#aA$AA$I$II$U$UU$moR%L#mcvyE@A8F#aE$AI#mcvyO
@A93#aO$AU$KA$uu$GA$yk$ts$CA$uk$JA$JHA$up$xq$sy$xw$tk$zi$TA$vs$DA$yj$NA@AAA$PA$wl$BA$zm$MA$YA$RA
@AB2$LA$LLA@AB5$VA$tt$SSA$SA$HA@ABC#gtz$sh#mcgAA%I%II%U%UU%moR&RR%vyE@AC7%E%AI%vyO@ACB%O%AU#gpd@
AD0#OM@AE0#amoRR%LL#mcgmoL&LL@AE6#mhok$mi$md$km$lj$lo$pl$lk$lh$mz#oog#RUPEEg@AF9#aZHA#gSUKUN$SHA
DDA$MADDAH$THREE-DOTtzi$letzi$TWO-CIRCLEtzi@B01!ORIYAgmy$ml$ol@B05#aA$AA$I$II$U$UU$moR%L@B0F$E$A
I@B13$O$AU$KA$uu$GA$yk$ts$CA$uk$JA$JHA$up$xq$sy$xw$tk$zi$TA$vs$DA$yj$NA@B2A$PA$wl$BA$zm$MA$YA$RA
@B32$LA$LLA@B35$VA$tt$SSA$SA$HA@B3C#gtz$sh#mcgAA%I%II%U%UU%moR&RR@B47%E%AI@B4B%O%AU#gpd@B55$OVER
LINE#AIwekz#AUwekz@B5C#aRRA$RHA@B5F$YYA$moRR%LL#mcgmoL&LL@B66#mhok$mi$md$km$lj$lo$pl$lk$lh$mz#IS
SHAR#aWA#rgmipa%mr$kmsw$miSIXTEENTH%rr$kmSIXTEENTHS@B82!TAMILgml$ol@B85#aA$AA$I$II$U$UU@B8E$E$EE
$AI@B92$O$OO$AU$KA@B99$ts$CA@B9C$JA@B9E$up$xq@BA3$zi$TA@BA8$NA$NNNA$PA@BAE$MA$YA$RA$RRA$LA$LLA$L
LLA$VA$tt$SSA$SA$HA@BBE#mcgAA%I%II%U%UU@BC6%E%EE%AI@BCA%O%OO%AU#gpd@BD0#OM@BD7#AUwekz@BE6#mhok$m
i$md$km$lj$lo$pl$lk$lh$mz#ngta$mikp%kq#DAYg#MONTHg#YEARg#DEBITg#CREDITg#ASig#RUPEEg#ngg@C00!TELU
GUgnamyi$my$ml$ol$namli#aA$AA$I$II$U$UU$moR%L@C0E$E$EE$AI@C12$O$OO$AU$KA$uu$GA$yk$ts$CA$uk$JA$JH
A$up$xq$sy$xw$tk$zi$TA$vs$DA$yj$NA@C2A$PA$wl$BA$zm$MA$YA$RA$RRA$LA$LLA$LLLA$VA$tt$SSA$SA$HA@C3C#
gtz$sh#mcgAA%I%II%U%UU%moR&RR@C46%E%EE%AI@C4A%O%OO%AU#gpd@C55#wekz#AIwekz@C58#aTSA$DZA$RRRA@C5D$
NAKAARA POLLU@C60$moRR%LL#mcgmoL&LL@C66#mhok$mi$md$km$lj$lo$pl$lk$lh$mz@C77#gSIDDHAM#rgmhokFOR O
DD POWERS OFlj%miFOR ODD POWERS OFlj%mdFOR ODD POWERS OFlj%kmFOR ODD POWERS OFlj%miFOR EVEN POWE
RS OFlj%mdFOR EVEN POWERS OFlj%kmFOR EVEN POWERS OFlj#gTUUMU!KANNADAgSPACINGmy$my$ml$ol$SIDDHAM#
aA$AA$I$II$U$UU$moR%L@C8E$E$EE$AI@C92$O$OO$AU$KA$uu$GA$yk$ts$CA$uk$JA$JHA$up$xq$sy$xw$tk$zi$TA$v
s$DA$yj$NA@CAA$PA$wl$BA$zm$MA$YA$RA$RRA$LA$LLA@CB5$VA$tt$SSA$SA$HA@CBC#gtz$sh#mcgAA%I%II%U%UU%mo
R&RR@CC6%E%EE%AI@CCA%O%OO%AU#gpd@CD5#wekz#AIwekz@CDD#aNAKAARA POLLU$FA@CE0$moRR%LL#mcgmoL&LL@CE6
#mhok$mi$md$km$lj$lo$pl$lk$lh$mz@CF1#gyq$yz@D00!MALAYALAMgnamli$my$ml$ol#aVEDICml$A$AA$I$II$U$UU
$moR%L@D0E$E$EE$AI@D12$O$OO$AU$KA$uu$GA$yk$ts$CA$uk$JA$JHA$up$xq$sy$xw$tk$zi$TA$vs$DA$yj$NA$NNNA
$PA$wl$BA$zm$MA$YA$RA$RRA$LA$LLA$LLLA$VA$tt$SSA$SA$HA$TTTA#gkdpqpd$CIRCULARpd$sh#mcgAA%I%II%U%UU
%moR&RR@D46%E%EE%AI@D4A%O%OO%AU#gpd#ammREPH#gPARA@D54#aCHILLU M%Y%LLL#AUwekz#rgmiONE-HUNDRED-AND
-SIXTIETH%FORTIETH$kmEIGHTIETHS$miTWENTIETH%TENTH$kmTWENTIETHS$miFIFTH#asgII$moRR%LL#mcgmoL&LL@D
66#mhok$mi$md$km$lj$lo$pl$lk$lh$mz#ngta$mikp%kq#rgmipa%mr$kmsw$miSIXTEENTH%rr$kmSIXTEENTHS#DATEk
z#aCHILLU NN%N%RR%L%LL%K@D81!SINHALAgmy$ANUSVARAYA$VISARGAYA@D85#aAYANNA$AAYANNA$AEYANNA$AEEYANN
A$IYANNA$IIYANNA$UYANNA$UUYANNA$IRUYANNA$IRUUYANNA$ILUYANNA$ILUUYANNA$EYANNA$EEYANNA$AIYANNA$OYA
NNA$OOYANNA$AUYANNA@D9A$tuKAYANNA$szKAYANNA$tuGAYANNA$szGAYANNA$KANTAJA NAASIKYAYA$SANYAKA GAYAN
NA$tuCAYANNA$szCAYANNA$tuJAYANNA$szJAYANNA$TAALUJA NAASIKYAYA%SANYOOGA NAAKSIKYAYA$SANYAKA JAYAN
NA$tuTTAYANNA$szTTAYANNA$tuDDAYANNA$szDDAYANNA$MUURDHAJA NAYANNA$SANYAKA DDAYANNA$tuTAYANNA$szTA
YANNA$tuDAYANNA$szDAYANNA$DANTAJA NAYANNA@DB3$SANYAKA DAYANNA$tuPAYANNA$szPAYANNA$tuBAYANNA$szBA
YANNA$MAYANNA$AMBA BAYANNA$YAYANNA$RAYANNA@DBD$DANTAJA LAYANNA@DC0$VAYANNA$TAALUJA SAYANNA$MUURD
HAJA SAYANNA$DANTAJA SAYANNA$HAYANNA$MUURDHAJA LAYANNA$FAYANNA@DCA#gAL-LAKUNA@DCF#mcgAELA-PILLA%
KETTI AEDA-PILLA%DIGA AEDA-PILLA%KETTI IS-PILLA%DIGA IS-PILLA%KETTI PAA-PILLA@DD6%DIGA PAA-PILLA
@DD8%GAETTA-PILLA%KOMBUVA%DIGA KOMBUVA%KOMBU DEKA%KOMBUVA HAA AELA-PILLA(DIGA AELA-PILLA(GAYANUK
ITTA%GAYANUKITTA@DE6#LITHmhok%mi%md%km%lj%lo%pl%lk%lh%mz@DF2#mcgDIGA GAETTA-PILLA&GAYANUKITTA#ls
KUNDDALIYA@E01!THAIvzKO KAI$KHO KHAI%KHUAT%KHWAI%KHON%RAKHANG$NGO NGU$CHO CHAN%CHING%CHANG$SO SO
$CHO CHOE$YO YING$DO CHADA$TO PATAK$THO THAN%NANGMONTHO%PHUTHAO$NO NEN$DO DEK$TO TAO$THO THUNG%T
HAHAN%THONG$NO NU$BO BAIMAI$PO PLA$PHO PHUNG$FO FA$PHO PHAN$FO FAN$PHO SAMPHAO$MO MA$YO YAK$RO R
UA$RU$LO LING$LU$WO WAEN$SO SALA%RUSI%SUA$HO HIP$LO CHULA$O ANG$HO NOKHUK$PAIYANNOI$SARA A$MAI H
AN-AKAT$SARA AA%AM%I%II%UE%UEE%U%UU$PHINTHU@E3F#CURRENCYklBAHT#vzSARA E%AE%O%AI MAIMUAN&MAIMALAI
$LAKKHANGYAO$MAIYAMOK$MAITAIKHU$MAI EK%THO%TRI%CHATTAWA$THANTHAKHAT$NIKHAHIT$YAMAKKAN$FONGMAN#mh
ok$mi$md$km$lj$lo$pl$lk$lh$mz#vzANGKHANKHU$KHOMUT@E81!LAOaKO$KHO SUNG@E84%TAM@E86$PALIyk$NGO$CO$
PALIuk$SO TAM@E8C$PALI JHA$NYO$PALIup%xq%sy%xw%tk%zi$DO$TO$THO SUNG%TAM$PALIyj$NO$BO$PO$PHO SUNG
$FO TAM$PHO TAM$FO SUNG$PALIzm$MO$YO$LO LING@EA5%LOOT@EA7$WO$SANSKRITtt%SSA$SO SUNG$HO SUNG$PAL
I LLA$O$HO TAM#zt#mcgA%MAI KAN%AA%AM%I%II%Y%YY%U%UU#gPALIpd#mcgMAI KON#SEMIVOWELgLO%NYO@EC0#mcgE
%EI%O%AY%AI@EC6#KO LA@EC8#pbMAI EK%THO%TI%CATAWA#CANCELLATIONkz#NIGGAHITA@ED0#mhok$mi$md$km$lj$l
o$pl$lk$lh$mz@EDC#HO NO$MO#aKHMU GO%NYO@F00!TIBETANslOM#kzGTER YIG MGO TRUNCATED A(-UM RNAM BCA
D MA)GTER TSHEG MA$kfYIG MGO MDUN MA$CLOSING YIG MGO SGAB MA$CARET YIG MGO PHUR SHAD MA$YIG MG
O TSHEG SHAD MA$SBRUL SHAD$BSKUR YIG MGO$BKA- SHOG YIG MGO$INTERSYLLABIC TSHEG$DELIMITER TSHEG B
STAR$SHAD$NYIS SHAD$TSHEG SHAD$NYIS TSHEG SHAD$RIN CHEN SPUNGS SHAD$RGYA GRAM SHAD$CARET -DZUD R
TAGS MEoxCAN$GTER TSHEG#LOGOTYPEgCHAD RTAGS%LHAG RTAGS#ASTROLOGICALgSGRA GCAN -CHAR RTAGS%-KHYU
D PA%SDONG TSHUGS#gRDEL DKAR GCIG&GNYIS&GSUM%NAG GCIG&GNYIS%DKAR RDEL NAG#mhok$mi$md$km$lj$lo$pl
$lk$lh$mz$mrmi%md%km%lj%lo%pl%lk%lh%mz%ok#kzBSDUS RTAGS$NGAS BZUNG NYI ZLA$CARET -DZUD RTAGS BZH
I MIG CAN$NGAS BZUNG SGOR RTAGS$CHE MGO$TSA -PHRU$GUG RTAGS GYON&GYAS$ANG KHANG GYON&GYAS#gYAR T
SHES$MAR TSHES#aKA$uu$GA$yk$ts$CA$uk$JA@F49$up$xq$sy$xw$tk$zi$TA$vs$DA$yj$NA$PA$wl$BA$zm$MA$TSA$
TSHA$DZA$DZHA$WA$ZHA$ZA$-A$YA$RA$LA$tt$SSA$SA$HA$A$KSSA$FIXED-FORM RA$KKA$RRA@F71#mcgAA%I%II%U%U
U%moR&RR&L&LL%E%EE%O%OO#gRJES SUtsRO$RNAM BCAD#mcglgI&II#gNYI ZLA NAA DA$SNA LDAN#kzHALANTA$PALU
TA#gLCI RTAGS$YANG RTAGS$LCE TSA CAN$MCHU CAN$GRU CAN RGYINGS%MED RGYINGS$lqMCHU CAN#SUBJOINEDgL
CE TSA CAN%MCHU CAN%lqMCHU CAN$aKA%uu%GA%yk%ts%CA%uk%JA@F99%up%xq%sy%xw%tk%zi%TA%vs%DA%yj%NA%PA%
wl%BA%zm%MA%TSA%TSHA%DZA%DZHA%WA%ZHA%ZA%-A%YA%RA%LA%tt%SSA%SA%HA%A%KSSA%FIXED-FORM WA&YA&RA@FBE#
KU RUuu&BZHI MIG CAN#CANTILLATIONglbBEAT%mbBEAT%CANG TE-U%SBUB -CHAL#klDRIL BU$RDO RJE$PADMA GDA
N$RDO RJE RGYA GRAM$PHUR PA$NOR BU&NYIS -KHYIL&GSUM -KHYIL&BZHI -KHYIL@FCE#gRDEL NAG RDEL DKAR&G
SUM#kzBSKA- SHOG GI MGO RGYAN$MNYAM YIG GI MGO RGYAN$NYIS TSHEG$kfBRDA RNYING YIG MGO MDUN MA$CL
OSING BRDA RNYING YIG MGO SGAB MA!RIGHT-FACING SVASTIg!LEFT-FACING SVASTIg!RIGHT-FACING SVASTIgb
nk!LEFT-FACING SVASTIgbnk!TIBETANkzLEADING MCHAN RTAGS$TRAILING MCHAN RTAGS@1000!MYANMARaKA$uu$G
A$yk$ts$CA$uk$JA$JHA$up$NNYA$xq$sy$xw$tk$zi$TA$vs$DA$yj$NA$PA$wl$BA$zm$MA$YA$RA$LA$WA$SA$HA$LLA$
A$SHAN A$I$II$U$UU$E$MON E$O$AU#mcgTALL AA%AA%I%II%U%UU%E%AI%MON II&O%Ei#gml$mmkg$ol$pd$ASAT#pgg
lvYA&RA&WA&HA#aGREAT SA#mhok$mi$md$km$lj$lo$pl$lk$lh$mz#gnqqy$qy#klLOCATIVE$COMPLETED$AFOREMENTI
ONED$GENITIVE#att$SSA$moR%RR%L%LL#mcgmoR&RR&L&LL#aMONts%JHA%BBA%BBE#pggMONlvNA(MA(LA#aSGAW KAREN
tt#mcgSGAW KAREN EU#pbkzSGAW KAREN HATHI(KE PHO#aWESTERN PWO KARENvs(PWA#mcgWESTERN PWO KAREN EU
)UE#gWESTERN PWO KAREN TONE-1(TONE-2(TONE-3(TONE-4(TONE-5#aEASTERN PWO KARENzi(YWA(GHWA#mcgGEB
A KAREN I%KAYAH OE&U&EE#aSHAN KA%uu%GA%CA%ZA%up%DA%NA%wl%FA%BA%vs%HA#pggSHANlvWA#mcgSHAN AA&E(i&
khY#gSHAN TONE-2%TONE-3%TONE-5%TONE-6%COUNCIL TONE-2&TONE-3&EMPHATICpb#aRUMAI PALAUNG FA#gRUMA
I PALAUNG TONE-5#SHANmhok%mi%md%km%lj%lo%pl%lk%lh%mz#gKHAMTI TONE-1%TONE-3#mcgAITON A&AI#klSHANm
i%no!GEORGIANcaAN%BAN%GAN%DON%EN%VIN%ZEN%TAN%IN%KAN%LAS%MAN%NAR%ON%PAR%ZHAR%RAE%SAN%TAR%UN%PHAR%
KHAR%GHAN%QAR%vv%CHIN%CAN%JIL%CIL%CHAR%XAN%JHAN%HAE%HE%HIE%WE%HAR%HOE@10C7%YN@10CD%AEN@10D0#aAN$
BAN$GAN$DON$EN$VIN$ZEN$TAN$IN$KAN$LAS$MAN$NAR$ON$PAR$ZHAR$RAE$SAN$TAR$UN$PHAR$KHAR$GHAN$QAR$vv$C
HIN$CAN$JIL$CIL$CHAR$XAN$JHAN$HAE$HE$HIE$WE$HAR$HOE$FI$YN$ELIFI$lwGAN$AIN#PARAGRAPHoy!onaGEORGIA
N NAR!GEORGIANaAEN$HARDg$LABIALg!HANGUL CHOSEONG KIYEOK$SSANGKIYEOK$NIEUN$TIKEUT$SSANGTIKEUT$RIE
UL$MIEUM$PIEUP$SSANGPIEUP$SIOS$SSANGSIOS$IEUNG$CIEUC$SSANGCIEUC$CHIEUCH$KHIEUKH$THIEUTH$PHIEUPH$
HIEUH$NIEUN-KIYEOK$SSANGNIEUN$NIEUN-TIKEUT$NIEUN-PIEUP$TIKEUT-KIYEOK$RIEUL-NIEUN$SSANGRIEUL$RIEU
L-HIEUH$KAPYEOUNRIEUL$MIEUM-PIEUP$KAPYEOUNMIEUM$PIEUP-KIYEOK$PIEUP-NIEUN$PIEUP-TIKEUT$PIEUP-SIOS
$PIEUP-SIOS-KIYEOK$PIEUP-SIOS-TIKEUT$PIEUP-SIOS-PIEUP$PIEUP-SSANGSIOS$PIEUP-SIOS-CIEUC$PIEUP-CIE
UC$PIEUP-CHIEUCH$PIEUP-THIEUTH$PIEUP-PHIEUPH$KAPYEOUNPIEUP$KAPYEOUNSSANGPIEUP$SIOS-KIYEOK$SIOS-N
IEUN$SIOS-TIKEUT$SIOS-RIEUL$SIOS-MIEUM$SIOS-PIEUP$SIOS-PIEUP-KIYEOK$SIOS-SSANGSIOS$SIOS-IEUNG$SI
OS-CIEUC$SIOS-CHIEUCH$SIOS-KHIEUKH$SIOS-THIEUTH$SIOS-PHIEUPH$SIOS-HIEUH$CHITUEUMSIOS$CHITUEUMSSA
NGSIOS$CEONGCHIEUMSIOS$CEONGCHIEUMSSANGSIOS$PANSIOS$IEUNG-KIYEOK$IEUNG-TIKEUT$IEUNG-MIEUM$IEUNG-
PIEUP$IEUNG-SIOS$IEUNG-PANSIOS$SSANGIEUNG$IEUNG-CIEUC$IEUNG-CHIEUCH$IEUNG-THIEUTH$IEUNG-PHIEUPH$
YESIEUNG$CIEUC-IEUNG$CHITUEUMCIEUC$CHITUEUMSSANGCIEUC$CEONGCHIEUMCIEUC$CEONGCHIEUMSSANGCIEUC$CHI
EUCH-KHIEUKH$CHIEUCH-HIEUH$CHITUEUMCHIEUCH$CEONGCHIEUMCHIEUCH$PHIEUPH-PIEUP$KAPYEOUNPHIEUPH$SSAN
GHIEUH$YEORINHIEUH$KIYEOK-TIKEUT$NIEUN-SIOS$NIEUN-CIEUC$NIEUN-HIEUH$TIKEUT-RIEUL$FILLER#JUNGSEON
G FILLER$A$AE$YA$YAE$EO$E$YEO$YE$O$WA$WAE$OE$YO$U$WEO$WE$WI$YU$EU$YI$I$A-O$A-U$YA-O$YA-YO$EO-O$E
O-U$EO-EU$YEO-O$YEO-U$O-EO$O-E$O-YE$O-O$O-U$YO-YA$YO-YAE$YO-YEO$YO-O$YO-I$U-A$U-AE$U-EO-EU$U-YE$
U-U$YU-A$YU-EO$YU-E$YU-YEO$YU-YE$YU-U$YU-I$EU-U$EU-EU$YI-U$I-A$I-YA$I-O$I-U$I-EU$I-ARAEA$ARAEA$A
RAEA-EO$ARAEA-U$ARAEA-I$SSANGARAEA$A-EU$YA-U$YEO-YA$O-YA$O-YAE#JONGSEONG KIYEOK$SSANGKIYEOK$KIYE
OK-SIOS$NIEUN$NIEUN-CIEUC$NIEUN-HIEUH$TIKEUT$RIEUL$RIEUL-KIYEOK$RIEUL-MIEUM$RIEUL-PIEUP$RIEUL-SI
OS$RIEUL-THIEUTH$RIEUL-PHIEUPH$RIEUL-HIEUH$MIEUM$PIEUP$PIEUP-SIOS$SIOS$SSANGSIOS$IEUNG$CIEUC$CHI
EUCH$KHIEUKH$THIEUTH$PHIEUPH$HIEUH$KIYEOK-RIEUL$KIYEOK-SIOS-KIYEOK$NIEUN-KIYEOK$NIEUN-TIKEUT$NIE
UN-SIOS$NIEUN-PANSIOS$NIEUN-THIEUTH$TIKEUT-KIYEOK$TIKEUT-RIEUL$RIEUL-KIYEOK-SIOS$RIEUL-NIEUN$RIE
UL-TIKEUT$RIEUL-TIKEUT-HIEUH$SSANGRIEUL$RIEUL-MIEUM-KIYEOK$RIEUL-MIEUM-SIOS$RIEUL-PIEUP-SIOS$RIE
UL-PIEUP-HIEUH$RIEUL-KAPYEOUNPIEUP$RIEUL-SSANGSIOS$RIEUL-PANSIOS$RIEUL-KHIEUKH$RIEUL-YEORINHIEUH
$MIEUM-KIYEOK$MIEUM-RIEUL$MIEUM-PIEUP$MIEUM-SIOS$MIEUM-SSANGSIOS$MIEUM-PANSIOS$MIEUM-CHIEUCH$MIE
UM-HIEUH$KAPYEOUNMIEUM$PIEUP-RIEUL$PIEUP-PHIEUPH$PIEUP-HIEUH$KAPYEOUNPIEUP$SIOS-KIYEOK$SIOS-TIKE
UT$SIOS-RIEUL$SIOS-PIEUP$PANSIOS$IEUNG-KIYEOK$IEUNG-SSANGKIYEOK$SSANGIEUNG$IEUNG-KHIEUKH$YESIEUN
G$YESIEUNG-SIOS$YESIEUNG-PANSIOS$PHIEUPH-PIEUP$KAPYEOUNPHIEUPH$HIEUH-NIEUN$HIEUH-RIEUL$HIEUH-MIE
UM$HIEUH-PIEUP$YEORINHIEUH$KIYEOK-NIEUN$KIYEOK-PIEUP$KIYEOK-CHIEUCH$KIYEOK-KHIEUKH$KIYEOK-HIEUH$
SSANGNIEUN!ETHIOPICslHA$HU$HI$HAA$HEE$HE$HO$HOA$LA$LU$LI$LAA$LEE$LE$LO$LWA$HHA$HHU$HHI$HHAA$HHEE
$HHE$HHO$HHWA$MA$MU$MI$MAA$MEE$ME$MO$MWA$SZA$SZU$SZI$SZAA$SZEE$SZE$SZO$SZWA$RA$RU$RI$RAA$REE$RE$
RO$RWA$SA$SU$SI$SAA$SEE$SE$SO$SWA$tt$SHU$SHI$SHAA$SHEE$SHE$SHO$SHWA$QA$QU$QI$QAA$QEE$QE$QO$QOA$Q
WA@124A$QWI$QWAA$QWEE$QWE@1250$QHA$QHU$QHI$QHAA$QHEE$QHE$QHO@1258$QHWA@125A$QHWI$QHWAA$QHWEE$QHW
E@1260$BA$BU$BI$BAA$BEE$BE$BO$BWA$VA$VU$VI$VAA$VEE$VE$VO$VWA$TA$TU$TI$TAA$TEE$TE$TO$TWA$CA$CU$CI
$CAA$CEE$CE$CO$CWA$XA$XU$XI$XAA$XEE$XE$XO$XOA$XWA@128A$XWI$XWAA$XWEE$XWE@1290$NA$NU$NI$NAA$NEE$N
E$NO$NWA$up$NYU$NYI$NYAA$NYEE$NYE$NYO$NYWA$qfA%U%I%AA%EE%E%O%WA$KA$KU$KI$KAA$KEE$KE$KO$KOA$KWA@1
2B2$KWI$KWAA$KWEE$KWE@12B8$KXA$KXU$KXI$KXAA$KXEE$KXE$KXO@12C0$KXWA@12C2$KXWI$KXWAA$KXWEE$KXWE@12
C8$WA$WU$WI$WAA$WEE$WE$WO$WOA$PHARYNGEAL A%U%I%AA%EE%E%O@12D8$ZA$ZU$ZI$ZAA$ZEE$ZE$ZO$ZWA$ZHA$ZHU
$ZHI$ZHAA$ZHEE$ZHE$ZHO$ZHWA$YA$YU$YI$YAA$YEE$YE$YO$YOA$DA$DU$DI$DAA$DEE$DE$DO$DWA$xw$DDU$DDI$DDA
A$DDEE$DDE$DDO$DDWA$JA$JU$JI$JAA$JEE$JE$JO$JWA$GA$GU$GI$GAA$GEE$GE$GO$GOA$GWA@1312$GWI$GWAA$GWEE
$GWE@1318$GGA$GGU$GGI$GGAA$GGEE$GGE$GGO$GGWAA$vs$THU$THI$THAA$THEE$THE$THO$THWA$uk$CHU$CHI$CHAA$
CHEE$CHE$CHO$CHWA$wl$PHU$PHI$PHAA$PHEE$PHE$PHO$PHWA$TSA$TSU$TSI$TSAA$TSEE$TSE$TSO$TSWA$TZA$TZU$T
ZI$TZAA$TZEE$TZE$TZO$TZOA$FA$FU$FI$FAA$FEE$FE$FO$FWA$PA$PU$PI$PAA$PEE$PE$PO$PWA$RYA$MYA$FYA@135D
#naGEMINATIONkxmcwekz$mcwekz$GEMINATIONkz#qykz#WORDSPACE#rtpr#of#tn#si#PREFACEsi#orkz#PARAGRAPHo
y#mhmi$md$km$lj$lo$pl$lk$lh$mz#ngta$pc$sx$ww$sa$ye$ov$wb$pp$kp$takq@1380#slSEBATBEIT MWA$MWI$MWE
E$MWE$SEBATBEIT BWA$BWI$BWEE$BWE$SEBATBEIT FWA$FWI$FWEE$FWE$SEBATBEIT PWA$PWI$PWEE$PWE#TONALkzYI
ZET%DERET%RIKRIK%pjRIKRIK%DIFAT%KENAT%CHIRET%HIDET%DERET-HIDET%KURT@13A0!CHEROKEEaA$E$I$O$U$V$GA
$KA$GE$GI$GO$GU$GV$HA$HE$HI$HO$HU$HV$LA$LE$LI$LO$LU$LV$MA$ME$MI$MO$MU$NA$HNA$NAH$NE$NI$NO$NU$NV$
QUA$QUE$QUI$QUO$QUU$QUV$SA$S$SE$SI$SO$SU$SV$DA$TA$DE$TE$DI$TI$DO$DU$DV$DLA$TLA$TLE$TLI$TLO$TLU$T
LV$TSA$TSE$TSI$TSO$TSU$TSV$WA$WE$WI$WO$WU$WV$YA$YE$YI$YO$YU$YV$MV@13F8#daYE%YI%YO%YU%YV%MV@1400!
CANADIAN SYLLABICSzf$E$AAI$I$II$O$OO$zlOO$wzEE%I$A$AA$WE$kvWE$WI$kvWI$WII$kvWII$WO$kvWO$WOO$kvWO
O$yrWOO$WA$kvWA$WAA$kvWAA$yrWAA$AI$zlW$qfpr$khmq%nv%qnmrnx%TOPmrnx%hmrnx%nx%kbmq&pjkdSTROKES%krm
m%pjkikj%mn%mvun$EN$IN$ON$AN$PE$PAAI$PI$PII$PO$POO$zlPOO$wzHEE%HI$PA$PAA$PWE$kvPWE$PWI$kvPWI$PWI
I$kvPWII$PWO$kvPWO$PWOO$kvPWOO$PWA$kvPWA$PWAA$kvPWAA$zlPWAA$P$kvP$wzH$TE$TAAI$TI$TII$TO$TOO$zlTO
O$wzDEE%DI$TA$TAA$TWE$kvTWE$TWI$kvTWI$TWII$kvTWII$md$kvmd$TWOO$kvTWOO$TWA$kvTWA$TWAA$kvTWAA$yrTW
AA$T$TTE$TTI$TTO$xq$KE$KAAI$KI$KII$KO$KOO$zlKOO$KA$KAA$KWE$kvKWE$KWI$kvKWI$KWII$kvKWII$KWO$kvKWO
$KWOO$kvKWOO$KWA$kvKWA$KWAA$kvKWAA$yrKWAA$K$KW$SOUTH-SLAVEY KEH%KIH%KOH%KAH$CE$CAAI$CI$CII$CO$CO
O$zlCOO$CA$CAA$CWE$kvCWE$CWI$kvCWI$CWII$kvCWII$CWO$kvCWO$CWOO$kvCWOO$CWA$kvCWA$CWAA$kvCWAA$yrCWA
A$C$SAYISI TH$ME$MAAI$MI$MII$MO$MOO$zlMOO$MA$MAA$MWE$kvMWE$MWI$kvMWI$MWII$kvMWII$MWO$kvMWO$MWOO$
kvMWOO$MWA$kvMWA$MWAA$kvMWAA$yrMWAA$M$kvM$MH$ATHAPASCAN M$SAYISI M$NE$NAAI$NI$NII$NO$NOO$zlNOO$N
A$NAA$NWE$kvNWE$NWA$kvNWA$NWAA$kvNWAA$yrNWAA$N$wzNG$NH$LE$LAAI$LI$LII$LO$LOO$zlLOO$LA$LAA$LWE$kv
LWE$LWI$kvLWI$LWII$kvLWII$LWO$kvLWO$LWOO$kvLWOO$LWA$kvLWA$LWAA$kvLWAA$L$kvL$lvL$SE$SAAI$SI$SII$S
O$SOO$zlSOO$SA$SAA$SWE$kvSWE$SWI$kvSWI$SWII$kvSWII$SWO$kvSWO$SWOO$kvSWOO$SWA$kvSWA$SWAA$kvSWAA$y
rSWAA$S$ATHAPASCAN S$SW$BLACKFOOT S$MOOSE-CREE SK$yrSKW%S-W%SPWA%STWA%SKWA%SCWA$SHE$SHI$SHII$SHO
$SHOO$tt$SHAA$SHWE$kvSHWE$SHWI$kvSHWI$SHWII$kvSHWII$SHWO$kvSHWO$SHWOO$kvSHWOO$SHWA$kvSHWA$SHWAA$
kvSHWAA$SH$YE$YAAI$YI$YII$YO$YOO$zlYOO$YA$YAA$YWE$kvYWE$YWI$kvYWI$YWII$kvYWII$YWO$kvYWO$YWOO$kvY
WOO$YWA$kvYWA$YWAA$kvYWAA$yrYWAA$Y$BIBLE-CREE Y$kvY$SAYISI YI$RE$R-CREE RE$kvLE$RAAI$RI$RII$RO$R
OO$kvLO$RA$RAA$kvLA$RWAA$kvRWAA$R$kvR$lvR$FE$FAAI$FI$FII$FO$FOO$FA$FAA$FWAA$kvFWAA$F$THE$N-CRE
E THE$THI$N-CREE THI$THII$N-CREE THII$THO$THOO$vs$THAA$THWAA$kvTHWAA$TH$TTHE$TTHI$TTHO$sy$TTH$TY
E$TYI$TYO$TYA$NUNAVIK HE%HI%HII%HO%HOO%HA%HAA%H$NUNAVUT H$HK$QAAI$QI$QII$QO$QOO$QA$QAA$Q$TLHE$TL
HI$TLHO$TLHA$kvRE%RI%RO%RA$NGAAI$NGI$NGII$NGO$NGOO$ts$NGAA$NG$NNG$SAYISI SHE%SHI%SHO%tt$WOODS-CR
EE THE%THI%THO%vs%TH$LHI$LHII$LHO$LHOO$LHA$LHAA$LH$TH-CREE THE%THI%THII%THO%THOO%vs%THAA%TH$AIVI
LIK B$BLACKFOOT E%I%O%A%WE%WI%WO%WA%NE%NI%NO%NA%KE%KI%KO%KA$SAYISI HE%HI%HO%HA$wzGHU%GHO%GHE%GHE
E%GHI%yk%RU%RO%RE%REE%RI%RA%WU%WO%WE%WEE%WI%WA%HWU%HWO%HWE%HWEE%HWI%HWA%THU%THO%THE%THEE%THI%vs%
TTU%TTO%TTE%TTEE%TTI%xq%PU%PO%PE%PEE%PI%PA%P%GU%GO%GE%GEE%GI%GA%KHU%KHO%KHE%KHEE%KHI%uu%KKU%KKO%
KKE%KKEE%KKI%KKA%KK%NU%NO%NE%NEE%NI%NA%MU%MO%ME%MEE%MI%MA%YU%YO%YE%YEE%YI%YA%JU$SAYISI JU$wzJO%J
E%JEE%JI$SAYISI JI$wzJA%JJU%JJO%JJE%JJEE%JJI%JJA%LU%LO%LE%LEE%LI%LA%DLU%DLO%DLE%DLEE%DLI%DLA%LHU
%LHO%LHE%LHEE%LHI%LHA%TLHU%TLHO%TLHE%TLHEE%TLHI%TLHA%TLU%TLO%TLE%TLEE%TLI%TLA%ZU%ZO%ZE%ZEE%ZI%ZA
%Z%kfZ%DZU%DZO%DZE%DZEE%DZI%DZA%SU%SO%SE%SEE%SI%SA%SHU%SHO%SHE%SHEE%SHI%tt%SH%TSU%TSO%TSE%TSEE%T
SI%TSA%CHU%CHO%CHE%CHEE%CHI%uk%TTSU%TTSO%TTSE%TTSEE%TTSI%TTSA$CHIg$rtpr$QAI$NGAI$NNGI$NNGII$NNGO
$NNGOO$NNGA$NNGAA$WOODS-CREE THWEE%THWI%THWII%THWO%THWOO%THWA%THWAA%khTH$BLACKFOOT W!OGHAMvakz#a
BEITH$LUIS$FEARN$SAIL$NION$UATH$DAIR$TINNE$COLL$CEIRT$MUIN$GORT$NGEADAL$STRAIF$RUIS$AILM$ONN$UR$
EADHADH$IODHADH$EABHADH$OR$UILLEANN$IFIN$EAMHANCHOLL$PEITH#FEATHERkz#lgFEATHERkz@16A0!RUNICaFEH
U FEOH FE F$V$URUZ UR U$YR$Y$W$THURISAZ THURS THORN$ETH$ANSUZ A$OS O$AC A$AESC$LONG-BRANCH-OSS O
$SHORT-TWIG-OSS O$O$OE$ON$RAIDO RAD REID R$KAUNA$CEN$KAUN K$G$ENG$GEBO GYFU G$GAR$WUNJO WYNN W$H
AGLAZ H$HAEGL H$LONG-BRANCH-HAGALL H$SHORT-TWIG-HAGALL H$NAUDIZ NYD NAUD N$SHORT-TWIG-NAUD N$DOT
TED-N$ISAZ IS ISS I$E$JERAN J$GER$LONG-BRANCH-AR AE$SHORT-TWIG-AR A$IWAZ EOH$PERTHO PEORTH P$ALG
IZ EOLHX$SOWILO S$SIGEL LONG-BRANCH-SOL S$SHORT-TWIG-SOL S$C$Z$TIWAZ TIR TYR T$SHORT-TWIG-TYR T$
D$BERKANAN BEORC BJARKAN B$SHORT-TWIG-BJARKAN B$DOTTED-P$OPEN-P$EHWAZ EH E$MANNAZ MAN M$LONG-BRA
NCH-MADR M$SHORT-TWIG-MADR M$LAUKAZ LAGU LOGR L$DOTTED-L$INGWAZ$ING$DAGAZ DAEG D$OTHALAN ETHEL O
$EAR$IOR$CWEORTH$CALC$CEALC$STAN$LONG-BRANCH-YR$SHORT-TWIG-YR$ICELANDIC-YR$Q$X#mtls#tyls#qdls#AR
LAUGkl#TVIMADURkl#BELGTHORkl#aK$SH$OO$FRANKS CASKET OS&IS&EH&AC&AESC@1700!TAGALOGaA$I$U$KA$GA$ts
$TA$DA$NA$PA$BA$MA$YA$RA$LA$WA$SA$HA#mcgI%U#gpd$PAMUDPOD@171F#asgRA!HANUNOOaA$I$U$KA$GA$ts$TA$DA
$NA$PA$BA$MA$YA$RA$LA$WA$SA$HA#mcgI%U#gPAMUDPOD!PHILIPPINEmtls#kbls@1740!BUHIDaA$I$U$KA$GA$ts$TA
$DA$NA$PA$BA$MA$YA$RA$LA$WA$SA$HA#mcgI%U@1760!TAGBANWAaA$I$U$KA$GA$ts$TA$DA$NA$PA$BA$MA$YA@176E$
LA$WA$SA@1772#mcgI%U@1780!KHMERaKA$uu$KO$KHO$NGO$CA$uk$CO$CHO$NYO$DA$sy$DO$TTHO$NNO$TA$vs$TO$THO
$NO$BA$wl$PO$PHO$MO$YO$RO$LO$VO$tt$SSO$SA$HA$LA$QA#uxmcQAQ%QAA%QI%QII%QU%QUK%QUU%QUUV%RY%RYY%LY%
LYY%QE%QAI%QOO TYPEmi(md%QAU#mcINHERENT AQ%AA$gAA%I%II%Y%YY%U%UU%UA%OE%YA%IE%E%AE%AI%OO%AU#gNIKA
HIT$REAHMUK$YUUKALEAPINTU$MUUSIKATOAN$TRIISAP$BANTOC$ROBAT$TOANDAKHIAT$KAKABAT$AHSDA$SAMYOK SANN
YA$VIRIAM$COENG$BATHAMASAT$KHAN$BARIYOOSAN$CAMNUC PII KUUH$LEK TOO$BEYYAL$PHNAEK MUAN$KOOMUUT#CU
RRENCYklRIEL#gAVAKRAHASANYA$ATTHACAN@17E0#mhok$mi$md$km$lj$lo$pl$lk$lh$mz@17F0#klLEK ATTAK SON&M
UOY&PII&BEI&BUON&PRAM&PRAM-MUOY&PRAM-PII&PRAM-BEI&PRAM-BUON@1800!MONGOLIAN BIRGA#zt#of#rtpr#si#l
jnk#TODO SOFTzf#SIBEslBOUNDARY MARKER#MANCHUof$rtpr#NIRUGU#FREE VARIATION SELECTORmi&md&km#mcoy#
FREE VARIATION SELECTORlj#mhok$mi$md$km$lj$lo$pl$lk$lh$mz@1820#aA$E$I$O$U$OE$UE$EE$NA$ANG$BA$PA$
QA$GA$MA$LA$SA$tt$TA$DA$uk$JA$YA$RA$WA$FA$KA$uu$TSA$ZA$HAA$ZRA$LHA$ZHI$CHI$TODOoxmcg%E%I%O%U%OE%
UE%ANG%BA%PA%QA%GA%MA%TA%DA%uk%JA%TSA%YA%WA%KA%GAA%HAA%JIA%NIA%DZA$SIBE E%I%IY%UE%U%ANG%KA%GA%HA
%PA%tt%TA%DA%JA%FA%GAA%HAA%TSA%ZA%RAA%uk%ZHA$MANCHU I%KA%RA%FA%ZHA$ukbmdnk@1880$ALI GALImlmi&olm
i&DAMARU&UBADAMA&lqUBADAMA&BALUDA&kmBALUDA&A&I&KA&ts&CA&xq&sy&xw&zi&TA&DA&PA&wl&SSA&ZHA&ZA&AH$TO
DO ALI GALI TA(ZHA$MANCHU ALI GALIyk(ts(CA(JHA(xq(tk(TA(yj(SSA(CYA(ZHA(ZA$ALI GALImrU(YA$MANCH
U ALI GALIzm$ALI GALI DAGALGA$MANCHU ALI GALI LHA@18B0!CANADIAN SYLLABICS OY$AY$AAY$WAY$POY$PAY$
PWOY$TAY$KAY$KWAY$MAY$NOY$NAY$LAY$SOY$SAY$SHOY$SHAY$SHWOY$YOY$YAY$RAY$NWI$OJIBWAY NWI$NWII$OJIBW
AY NWII$NWO$OJIBWAY NWO$NWOO$OJIBWAY NWOO$RWEE$RWI$RWII$RWO$RWOO$RWA$OJIBWAY P%T%K%C%M%N%S%SH$EA
STERN W$WESTERN W$khdnx%rvmm$R-CREE RWE$kvLOO%LAA$THWE$THWA$TTHWE$TTHOO$TTHAA$TLHWE$TLHOO$SAYIS
I SHWE%SHOO%HOO$wzGWU%DENE GEE%GAA%GWA$SAYISI JUU$wzJWA$BEAVER DENE L&R$wzDENTAL S@1900!LIMBU VO
WEL-CARRIERa#aKA$uu$GA$yk$ts$CA$uk$JA$JHA$YAN$TA$vs$DA$yj$NA$PA$wl$BA$zm$MA$YA$RA$LA$WA$tt$SSA$S
A$HA$GYAN$TRA@1920#mcgA%I%U%EE%AI%OO%AU%E%O#SUBJOINEDaYA%RA%WA@1930#daKA%ts%ml%TA%NA%PA%MA%RA%LA
#gMUKPHRENG$KEMPHRENG$SA-I@1940$LOO@1944#nokz#orkz#mhok$mi$md$km$lj$lo$pl$lk$lh$mz!TAI LEaKA%XA%
ts%TSA%SA%YA%TA%vs%LA%PA%wl%MA%FA%VA%HA%QA%uu%TSHA%NA%A%I%EE%EH%U%OO%O%UE%E%AUE%AI@1970%TONE-2%T
ONE-3%TONE-4%TONE-5%TONE-6@1980!NEW TAI LUEapmQA&sbQA&pmKA(XA(ts&sbKA(XA(ts&pmTSA(SA(YA&sbTSA(SA
(YA&pmTA(vs(NA&sbTA(vs(NA&pmPA(wl(MA&sbPA(wl(MA&pmFA(VA(LA&sbFA(VA(LA&pmHA(DA(BA&sbHA(DA(BA&pmKV
A(XVA&sbKVA(XVA&pmSUA&sbSUA@19B0%mcgmcSHORTENER(AA(II(U(UU(E(AE(O(OA(UE(AY(AAY(UY(OY(OAY(UEY(IY%
akhV(NG(N(M(K(D(B%pbMARK-1&MARK-2@19D0%mhok&mi&md&km&lj&lo&pl&lk&lh&mz%THAMmhmi@19DE%gLAE&LAEV!K
HMERklPATHAMASAT$MUOY KOET$PII KOET$BEI KOET$BUON KOET$PRAM KOET$PRAM-MUOY KOET$PRAM-PII KOET$PR
AM-BEI KOET$PRAM-BUON KOET$DAP KOET$DAP-MUOY KOET$DAP-PII KOET$DAP-BEI KOET$DAP-BUON KOET$DAP-PR
AM KOET$TUTEYASAT$MUOY ROC$PII ROC$BEI ROC$BUON ROC$PRAM ROC$PRAM-MUOY ROC$PRAM-PII ROC$PRAM-BE
I ROC$PRAM-BUON ROC$DAP ROC$DAP-MUOY ROC$DAP-PII ROC$DAP-BEI ROC$DAP-BUON ROC$DAP-PRAM ROC!BUGIN
ESEaKA$GA$ts$NGKA$PA$BA$MA$MPA$TA$DA$NA$NRA$CA$JA$up$NYCA$YA$RA$LA$VA$SA$A$HA#mcgI%U%E%O%AE@1A1E
#PALLAWA#END OFqy!TAI THAMapmKA&uu&KXA%sbKA&KXA&uu%ts%pmCA&uk%sbCA&SA&uk%up%RATA%pmRATHA%DA%sbRA
THA%RANA%pmTA&vs%sbTA&vs%NA%BA%pmPA&wl&FA%sbPA&FA&wl%MA%sbYA%pmYA%RA%RUE%LA%LUE%WA%pmtt&SSA&SA&H
A%LLA%A%sbHA%I%II%U%UU%EE%OO%LAE%GREAT SA$pgglvRA(LA&LA TANG LAI$gMAI KANG LAI$pggkhts&sbPA&pmRA
THA ORsbPA&MA&BA&SA@1A60$gSAKOT$mcgA&MAI SAT&AA&TALL AA&I&II&UE&UUE&U&UU&O&OAkg&OY&E&AE&OO&AI&TH
AM AI&OAi$gMAI KANG%TONE-1%TONE-2%KHUEN TONE-3&TONE-4&TONE-5%RA HAAM%MAI SAM%KHUEN-LUE KARAN@1A7
F$nasmmm$HORAmhok&mi&md&km&lj&lo&pl&lk&lh&mz@1A90$THAMmhok&mi&md&km&lj&lo&pl&lk&lh&mz@1AA0$gWIAN
G%WIANGWAAK%SAWAN%KEOW%HOY%DOKMAI%lgmfRANA%MAI YAMOK%KAAN%KAANKUU%SATKAAN%SATKAANKUU%HANG%CAANG@
1AB0!naDOUBLEDkupk#DIAERESIS-RING#INFINITY#kof#ohmm#X-Xkg#WIGGLYqjkg#otkzkg#kbotkzkg#mbCENTRALIZ
ATIONkjkg#STRONG CENTRALIZATIONkjkg#PARENTHESESi#kbPARENTHESESi#PARENTHESESkg$re#pidaWkg&lwWkg#k
kltikk#hltih#kkltkgkk#hltkgh#ldBRACKETSi#nggi#lqkbARCHi#mngi#kbmngi&kg#ohmqpk#pidasqG(R(T@1B00!B
ALINESEgULU RICEM%vy$CECEK$SURANG$BISAH#aAKARA%zk$IKARA%zk$UKARA%zk$RA REPA&zk$LA LENGA&zk$EKARA
$AIKARA$OKARA%zk$KA%xn$GA%GORA$ts$CA%LACA$JA%JERA$up$TA LATIK%MURDAxn$DA MURDA ALPAPRANA&xn$NA R
AMBAT$TA%TAWA$DA%MADU$NA$PA%KAPAL$BA%KEMBANG$MA$YA$RA$LA$WA$SA SAGA%SAPA%$HA#gREREKAN#mcgzk%ULU&
SARI%SUKU&ILUT%RA REPA(zk%LA LENGA(zk%TALING&REPA&zk&REPAzk%PEPET&zk#ADEG ADEG#aKAF SASAK$KHOT S
ASAK$TZIR SASAK$EF SASAK$VE SASAK$ZAL SASAK$ASYURA SASAK$sgJNYA@1B50#mhok$mi$md$km$lj$lo$pl$lk$l
h$mz#PANTI#PAMADA#WINDU#CARIK PAMUNGKAH$SIKI$PAREREN#PAMENENG#wiklDONG%DENG%DUNG%DANG&SURANG%DIN
G%DAENG%DEUNG%DAING%DANG GEDE%naTEGEH&ENDEP&KEMPUL&KEMPLI&JEGOGAN&KEMPULbJEGOGAN&KEMPLIbJEGOGAN&
BENDE&GONG%RIGHT-HANDotDUG(DAG&qaTUK(TAK%LEFT-HANDotPANG(PUNG&qaPLAK(PLUK&otPING#PANTI LANTANG#P
AMADA LANTANG@1B80!SUNDANESEgPANYECEK$PANGLAYAR$PANGWISAD#aA$I$U$AE$O$E$EU$KA$QA$GA$ts$CA$JA$ZA$
up$TA$DA$NA$PA$FA$VA$BA$MA$YA$RA$LA$WA$SA$XA$HA#pggPAMINGKAL%PANYAKRA%PANYIKU#mcgPANGHULU%PANYUK
U%PANAELAENG%PANOLONG%PAMEPET%PANEULEUNG#gPAMAAEH$pd#pggPASANGAN MA&WA#auu$SYA#mhok$mi$md$km$lj$
lo$pl$lk$lh$mz#sh#aREU$LEU$zm$khK%M!BATAKaA$tfA$HA$tfHA$MANDAILING HA$BA$KARO BA$PA$tfPA$NA$MAND
AILING NA$WA$tfWA$PAKPAK WA$GA$tfGA$JA$DA$RA$tfRA$MA$tfMA$SOUTHERN TA$NORTHERN TA$SA$tfSA$MANDAI
LING SA$YA$tfYA$ts$LA$tfLA$up$CA$NDA$MBA$I$U#gTOMPI#mcgE%PAKPAK E%EE%I%KARO I%O%KARO O%U&FORtfSA
#pggNG%H#PANGOLAT#PANONGONAN@1BFC#klBINDU NA METEK%PINARBORAS%JUDUL%PANGOLAT!LEPCHAaKA$KLA$uu$GA
$GLA$ts$CA$uk$JA$up$TA$vs$DA$NA$PA$PLA$wl$FA$FLA$BA$BLA$MA$MLA$TSA$TSHA$DZA$YA$RA$LA$HA$HLA$VA$S
A$tt$WA$A#SUBJOINEDaYA%RA#mcgAA%I%O%OO%U%UU%E#pggK%M%L%N%P%R%T%NYIN-DO%KANG#gRAN$tz@1C3B#lsTA-RO
L$NYET THYOOM TA-ROL$CER-WA$TSHOOK CER-WA%#mhok$mi$md$km$lj$lo$pl$lk$lh$mz@1C4D#axq$sy$xw!OL CHI
KImhok%mi%md%km%lj%lo%pl%lk%lh%mz$aLA%AT%AG%ANG%AL%LAA%AAK%AAJ%AAM%AAW%LI%IS%IH%INY%IR%LU%UC%UD%
UNN%UY%LE%EP%EDD%EN%ERR%LO%OTT%OB%OV%OH$MU TTUDDAG$GAAHLAA TTUDDAAG$MU-GAAHLAA TTUDDAAG$RELAA$PH
AARKAA$AHAD$lsMUCAAD%kbMUCAAD!tjdayuVE%LONG-LEGGED DE%NARROW O%WIDE ES%TALL TE%THREE-LEGGED TE%T
ALL HARDg&YAT%UNBLENDED UK@1C90!GEORGIAN MTAVRULIcaAN&BAN&GAN&DON&EN&VIN&ZEN&TAN&IN&KAN&LAS&MAN&
NAR&ON&PAR&ZHAR&RAE&SAN&TAR&UN&PHAR&KHAR&GHAN&QAR&vv&CHIN&CAN&JIL&CIL&CHAR&XAN&JHAN&HAE&HE&HIE&W
E&HAR&HOE&FI&YN&ELIFI&lwGAN&AIN@1CBD&AEN&HARDg&LABIALg!SUNDANESElsBINDU SURYA%PANGLONG%PURNAMA%C
AKRA%LEU SATANGA%KA SATANGA%DA SATANGA%BA SATANGA@1CD0!VEDICpbKARSHANA$SHARA$PRENKHA#gNIHSHVASA$
YAJURVEDIC MIDLINEyy#pbYAJURVEDIC AGGRAVATEDuxyy%uxyy%KATHAKAuxyy$vykg$YAJURVEDIC KATHAKAuxyySCH
ROEDER$kbyy$ohyy$KATHAKA ANUDATTA$mmkg$mdnkkg$kmnkkg$RIGVEDIC KASHMIRIuxyy$ATHARVAVEDICuxyy#goly
y%UDATTA$lgolUDATTA$olANUDATTA$lgolANUDATTA$olUDATTAbrk%ANUDATTAbrk$mlANTARGOMUKHA%BAHIRGOMUKHA%
VAMAGOMUKHA&brk$TIRYAK$HEXIFORMoxml$oxml$RTHANGoxml$mlUBHAYATO MUKHA$ARDHAVISARGA$mfARDHAVISARGA
#pbvyi#gyq$yz$ATIKRAMA#pbnxi$kbnxi#gkbmlANTARGOMUKHA@1D00!piadcA&AE#dalwAE#adcBARRED B&C&D&ETH&E
#dalwotE&I#adcJ&K&Lbkj&M&lgN&O&otO#daydO&otO&Obkj%lwOE#adcOU#daTOPmrO%qnmrO#adcP&lgR&lwR&T&U#day
dU&DIAERESIZED U&lwM#adcV&W&Z&EZH$VOICED LARYNGEAL SPIRANT$AIN!twadcuw&LAMDA&PI&RHO&PSI!tjadcEL!
onacA%AE%B%BARRED B%D%E%lgE%G%H%I%J%K%L%M%N%lgN%O%OU%P%R%T%U%W$dA%lwA%ry%lwAE%B%D%E%SCHWA%otE%lw
otE%G%lwI%K%M%ENG%O%otO%TOPmrO%qnmrO%P%T%U%ydU%lwM%V%AIN%BETA%twuw%vw%twPHI%CHI!piSUBSCRIPTdaI&R
&U&V!twSUBSCRIPTdaBETA&uw&RHO&PHI&CHI!pidaUE%Bbkrmg%Dbkrmg%Fbkrmg%Mbkrmg%Nbkrmg%Pbkrmg%Rbkrmg(FI
SHHOOKkxkrmg%Sbkrmg%Tbkrmg%Zbkrmg%lwG!onatjEN!pidasqG%THbSTRIKETHROUGH$caIbkj$avibkj%Pbkj$caUbkj
$aqgbkj%Bbpxll%Dbpxll%Fbpxll%Gbpxll%Kbpxll%Lbpxll%Mbpxll%Nbpxll%Pbpxll%Rbpxll%Sbpxll%ESHbpxll%Vb
pxll%Xbpxll%Zbpxll%Abmpll%rybmpll%Dbllkxrk%Ebmpll%otEbmpll%lgotEbmpll%SCHWAbmpll%Ibmpll%otObmpll
%ESHbmpll%Ubmpll%EZHbmpll!onadlwry%C&bzq%ETH%lgotE%F%uoJbkj%sdG%lwH%Ibkj%vi%cI(bkj%Jbtc%Lbmpll(p
xll%cL%Mbll%lwMboxLEG%Nbkkll(mpll%cN%BARRED O%PHI%Sbll%ESH%Tbpxll%Upq%qg%cU%Vbll%lwV%Z&bmpll(zq%
EZH%ud!naponvpk$mqpk#SNAKEkg#SUSPENSIONkz#MACRON-ACUTE#GRAVE-MACRON#MACRON-GRAVE#ACUTE-MACRON#GR
AVE-ACUTE-GRAVE#ACUTE-GRAVE-ACUTE#pidaRkg#BREVE-MACRON#MACRON-BREVE#kbkui#wgi#ZIGZAGkg#ISkg#URi#
USi#pidaFLATTENEDotAi&AE&AO&AV&Cpw&sqD&ETH&G$adcG$daK&L$adcL(M$daN$adcN(R$daR ROTUNDA&S&oxS&Z&ry
&B&BETA&SCHWA&F&Lbkbkrmg&ObmbCENTRALIZATIONkj&P&ESH&UbmbCENTRALIZATIONkj&W&Abla&Obla&Ubla#UPuni#
KAVYKAih%kk#mmikk#WIDElqBRIDGEkg#mmkgkk#DELETIONkz#kblqoukg#vblyTOkg#kklci#hlckxmvlckg!picaAbnxk
g#daAbnxkg#caBbmmi#daBbmmi#caBbmmkg#daBbmmkg#caBbqjkg#daBbqjkg#caCbpwkxmq#daCbpwkxmq#caDbmmi#daD
bmmi#caDbmmkg#daDbmmkg#caDbqjkg#daDbqjkg#caDbpw#daDbpw#caDbkukg#daDbkukg#caEbnfkxnv#daEbnfkxnv#c
aEbnfkxmq#daEbnfkxmq#caEbkukg#daEbkukg#caEbmgkg#daEbmgkg#caEbpwkxou#daEbpwkxou#caFbmmi#daFbmmi#c
aGbnf#daGbnf#caHbmmi#daHbmmi#caHbmmkg#daHbmmkg#caHbla#daHbla#caHbpw#daHbpw#caHboukg#daHboukg#caI
bmgkg#daIbmgkg#caIblakxmq#daIblakxmq#caKbmq#daKbmq#caKbmmkg#daKbmmkg#caKbqjkg#daKbqjkg#caLbmmkg#
daLbmmkg#caLbmmkgkxnf#daLbmmkgkxnf#caLbqjkg#daLbqjkg#caLbkukg#daLbkukg#caMbmq#daMbmq#caMbmmi#daM
bmmi#caMbmmkg#daMbmmkg#caNbmmi#daNbmmi#caNbmmkg#daNbmmkg#caNbqjkg#daNbqjkg#caNbkukg#daNbkukg#caO
bmgkxmq#daObmgkxmq#caObmgkxla#daObmgkxla#caObnfkxnv#daObnfkxnv#caObnfkxmq#daObnfkxmq#caPbmq#daPb
mq#caPbmmi#daPbmmi#caRbmmi#daRbmmi#caRbmmkg#daRbmmkg#caRbmmkgkxnf#daRbmmkgkxnf#caRbqjkg#daRbqjkg
#caSbmmi#daSbmmi#caSbmmkg#daSbmmkg#caSbmqkxmmi#daSbmqkxmmi#caSbqikxmmi#daSbqikxmmi#caSbmmkgkxmmi
#daSbmmkgkxmmi#caTbmmi#daTbmmi#caTbmmkg#daTbmmkg#caTbqjkg#daTbqjkg#caTbkukg#daTbkukg#caUblakg#da
Ublakg#caUbmgkg#daUbmgkg#caUbkukg#daUbkukg#caUbmgkxmq#daUbmgkxmq#caUbnfkxla#daUbnfkxla#caVbmg#da
Vbmg#caVbmmkg#daVbmmkg#caWbnv#daWbnv#caWbmq#daWbmq#caWbla#daWbla#caWbmmi#daWbmmi#caWbmmkg#daWbmm
kg#caXbmmi#daXbmmi#caXbla#daXbla#caYbmmi#daYbmmi#caZbku#daZbku#caZbmmkg#daZbmmkg#caZbqjkg#daZbqj
kg%Hbqjkg%Tbla%Wbnxi%Ybnxi%Abhmrnx%oxSbmmi)nckj)pmkj#caSHARP S#davw#caAbmmkg#daAbmmkg#caAblli#da
Ablli#caAbkukxmq#daAbkukxmq#caAbkukxnv#daAbkukxnv#caAbkukxlli#daAbkukxlli#caAbkukxmg#daAbkukxmg#
caAbkukxmmkg#daAbkukxmmkg#caAboukxmq#daAboukxmq#caAboukxnv#daAboukxnv#caAboukxlli#daAboukxlli#ca
Aboukxmg#daAboukxmg#caAboukxmmkg#daAboukxmmkg#caEbmmkg#daEbmmkg#caEblli#daEblli#caEbmg#daEbmg#ca
Ebkukxmq#daEbkukxmq#caEbkukxnv#daEbkukxnv#caEbkukxlli#daEbkukxlli#caEbkukxmg#daEbkukxmg#caEbkukx
mmkg#daEbkukxmmkg#caIblli#daIblli#caIbmmkg#daIbmmkg#caObmmkg#daObmmkg#caOblli#daOblli#caObkukxmq
#daObkukxmq#caObkukxnv#daObkukxnv#caObkukxlli#daObkukxlli#caObkukxmg#daObkukxmg#caObkukxmmkg#daO
bkukxmmkg#caObulkxmq#daObulkxmq#caObulkxnv#daObulkxnv#caObulkxlli#daObulkxlli#caObulkxmg#daObulk
xmg#caObulkxmmkg#daObulkxmmkg#caUbmmkg#daUbmmkg#caUblli#daUblli#caUbulkxmq#daUbulkxmq#caUbulkxnv
#daUbulkxnv#caUbulkxlli#daUbulkxlli#caUbulkxmg#daUbulkxmg#caUbulkxmmkg#daUbulkxmmkg#caYbnv#daYbn
v#caYbmmkg#daYbmmkg#caYblli#daYblli#caYbmg#daYbmg#caMIDDLE-WELSH LL#daMIDDLE-WELSH LL#caMIDDLE-W
ELSH V#daMIDDLE-WELSH V#caYbLOOP#daYbLOOP!twdarybnn(nl(nnkxoe(nlkxoe(nnkxqq(nlkxqq(nnkxlp(nlkxlp
#carybnn(nl(nnkxoe(nlkxoe(nnkxqq(nlkxqq(nnkxlp(nlkxlp#daqmbnn(nl(nnkxoe(nlkxoe(nnkxqq(nlkxqq@1F1
8#caqmbnn(nl(nnkxoe(nlkxoe(nnkxqq(nlkxqq@1F20#daETAbnn(nl(nnkxoe(nlkxoe(nnkxqq(nlkxqq(nnkxlp(nlk
xlp#caETAbnn(nl(nnkxoe(nlkxoe(nnkxqq(nlkxqq(nnkxlp(nlkxlp#davibnn(nl(nnkxoe(nlkxoe(nnkxqq(nlkxqq
(nnkxlp(nlkxlp#cavibnn(nl(nnkxoe(nlkxoe(nnkxqq(nlkxqq(nnkxlp(nlkxlp#dasrbnn(nl(nnkxoe(nlkxoe(nnk
xqq(nlkxqq@1F48#casrbnn(nl(nnkxoe(nlkxoe(nnkxqq(nlkxqq@1F50#daqgbnn(nl(nnkxoe(nlkxoe(nnkxqq(nlkx
qq(nnkxlp(nlkxlp@1F59#caqgbnl@1F5B)kxoe@1F5D*qq@1F5F*lp#darcbnn(nl(nnkxoe(nlkxoe(nnkxqq(nlkxqq(n
nkxlp(nlkxlp#carcbnn(nl(nnkxoe(nlkxoe(nnkxqq(nlkxqq(nnkxlp(nlkxlp#daryboe(qq%qmboe(qq%ETAboe(qq%
viboe(qq%srboe(qq%qgboe(qq%rcboe(qq@1F80%rybnnkxln(nlkxln(nnkxoekxln(nlkxoekxln(nnkxqqkxln(nlkxq
qkxln(nnkxlpkxln(nlkxlpkxln#carybnnkxlx(nlkxlx(nnkxoekxlx(nlkxoekxlx(nnkxqqkxlx(nlkxqqkxlx(nnkxl
pkxlx(nlkxlpkxlx#daETAbnnkxln(nlkxln(nnkxoekxln(nlkxoekxln(nnkxqqkxln(nlkxqqkxln(nnkxlpkxln(nlkx
lpkxln#caETAbnnkxlx(nlkxlx(nnkxoekxlx(nlkxoekxlx(nnkxqqkxlx(nlkxqqkxlx(nnkxlpkxlx(nlkxlpkxlx#dar
cbnnkxln(nlkxln(nnkxoekxln(nlkxoekxln(nnkxqqkxln(nlkxqqkxln(nnkxlpkxln(nlkxlpkxln#carcbnnkxlx(nl
kxlx(nnkxoekxlx(nlkxoekxlx(nnkxqqkxlx(nlkxqqkxlx(nnkxlpkxlx(nlkxlpkxlx#darybVRACHY(nf(oekxln(ln(
qqkxln@1FB6(lp)kxln#carybVRACHY(nf(oe(qq(lx#KORONIS#lx#nn#lp#sekxlp#daETAboekxln(ln(qqkxln@1FC6(
lp)kxln#caqmboe(qq%ETAboe(qq(lx#nnkxoe%qq%lp#davibVRACHY(nf(sekxoe*qq@1FD6(lp(sekxlp#cavibVRACHY
(nf(oe(qq@1FDD#nlkxoe%qq%lp#daqgbVRACHY(nf(sekxoe*qq%RHObnn(nl%qgblp(sekxlp#caqgbVRACHY(nf(oe(qq
%RHObnl#sekxoe%qq#oe@1FF2#darcboekxln(ln(qqkxln@1FF6(lp)kxln#casrboe(qq%rcboe(qq(lx#qq#nl@2000!E
N QUAD!EM QUAD!ENva!EMva!THREE-PER-EMva!FOUR-PER-EMva!SIX-PER-EMva!FIGUREva!lsva!THINva!HAIRva!o
kWIDTHva$NON-JOINER$JOINER!zhkz!RIGHT-TO-LEFTkz!zf!NON-BREAKINGzf!FIGUREtd!ENtd!EMtd!kipq!kbkdqj
#sbqj!kkmtnwkz!hmtnwkz!mtLOW-9nwkz#HIGH-REVERSED-9nwkz!kkkbnwkz!hkbnwkz!kbLOW-9nwkz#HIGH-REVERSE
D-9nwkz!DAGGER!kbDAGGER!wr!oswr!mimmLEADER!mdmmLEADER!kizt!HYPHENATION POINT!qjoy!PARAGRAPHoy!zh
EMBEDDING!RIGHT-TO-LEFT EMBEDDING!POP DIRECTIONAL FORMATTING!zhOVERRIDE!RIGHT-TO-LEFT OVERRIDE!N
ARROW NO-BREAKva!PER MILLEg#takqg!PRIME!kbPRIME!ohPRIME!lgPRIME#kbPRIME#ohPRIME!CARET!mtntpenwkz
#mspenwkz!REFERENCEkz!kbnokz!INTERROBANG!OVERLINE!UNDERTIE!vzTIE!CARET INSERTION POINT!ASTERISM!
zfwr!rgyx!kkldktbQUILL!hldktbQUILL!kborkz!ornokz!noorkz!TIRONIANgET!lgPILCROWg!knkcwr#kawr!sbmx!
lgtn!CLOSE UP!mdASTERISKS ALIGNEDyi!COMMERCIALwyg!SWUNGtd!lqUNDERTIE!FLOWERlskz!kmmmls!ugPRIME!l
jmmls!lommls!mdmmls!ljmmkz!poqd!TRICOLON!kdljnk!luxcva!WORD JOINER!FUNCTION APPLICATION!INVISIBL
Eli#oy#mn@2066!zhISOLATE!RIGHT-TO-LEFT ISOLATE!FIRST STRONG ISOLATE!POP DIRECTIONAL ISOLATE!INHI
BIT SYMMETRIC SWAPPING!ACTIVATE SYMMETRIC SWAPPING!INHIBITtveSHAPING!ACTIVATEtveSHAPING!NATIONAL
mhSHAPES!NOMINALmhSHAPES!rjok#pidaI@2074#lj#lo#pl#lk#lh#mz#mng#wy#qbg#kklt#hlt#pidaN!SUBSCRIPTok
#mi#md#km#lj#lo#pl#lk#lh#mz#mng#wy#qbg#kklt#hlt@2090!piSUBSCRIPTdaA&E&O&X&SCHWA&H&K&L&M&N&P&S&T@
20A0!EURO-CURRENCYg!sig!CRUZEIROg!FRENCH FRANCg!LIRAg!MILLg!NAIRAg!PESETAg!RUPEEg!WONg!NEW SHEQE
Lg!DONGg!EUROg!KIPg!TUGRIKg!DRACHMAg!GERMAN PENNYg!PESOg!GUARANIg!AUSTRALg!HRYVNIAg!CEDIg!LIVR
E TOURNOISg!SPESMILOg!TENGEg!INDIAN RUPEEg!TURKISH LIRAg!NORDICkzg!MANATg!RUBLEg!LARIg!BITCOINg!
SOMg@20D0!nakkmui#hmui#oxkdqjre#pjkdqjre#ocfi#ssfi#kkfi#hfi#nxre#ssnxre#ocnxre#kmnki#ljnki#ENCLO
SINGle$ld$ny$lezo#kkhfi#ENCLOSING SCREEN$KEYCAP$UPWARDlrkw#rwqzre#kbkdkjre#ANNUITYkl#ohUNDERDOT#
WIDE BRIDGEi#kcfre#oxkbqzre#kamuboako#kcmuboako#kkfkg#hfkg#mxi@2100!ACCOUNT OF!ADDRESSED TO TH
E SUBJECT!rdcC!DEGREE CELSIUS!npqjkl!CARE OF!CADA UNA!EULER CONSTANT!SCRUPLE!DEGREE FAHRENHEIT!s
ddG#cH!BLACK-LETTERcH!rdcH!PLANCK CONSTANT$nmmdPI!sdcI!BLACK-LETTERcI!sdcL#dL!L Bpqkl!rdcN!NUMER
Og!yfRECORDING COPYRIGHT!sdcP!rdcP$Q!sdcR!BLACK-LETTERcR!rdcR!PRESCRIPTION TAKE!RESPONSE!SERVICE
kz!tog!TRADEkzg!VERSICLE!rdcZ!OUNCEg!OHMg!lqOHMg!BLACK-LETTERcZ!lwtwdavi!KELVINg!ANGSTROMg!sdcB!
BLACK-LETTERcC!ESTIMATEDkl!sddE#cE$F!lwcF!sdcM#dO!nrkl!BETkl!yokl!DALETkl!INFORMATION SOURCE!mfc
Q!FACSIMILEg!rddPI$uw#cuw$PI#N-ARY SUMMATION!lwojcG%L!lgojcL!lwojcY!rdITALICcD$dD%E%I%J!PROPERTY
qj!lwxi!PERg!AKTIESELSKAB!lwdF!klFOR SAMARITAN SOURCE!VULGARrgmiSEVENTH%NINTH%TENTH%THIRD$mdTHIR
DS$miFIFTH$mdFIFTHS$kmFIFTHS$ljFIFTHS$miSIXTH$loSIXTHS$mirr$kmue$loue$lkue!rgNUMERATORmi!ROMANys
mi$md$km$lj$lo$pl$lk$lh$mz$ta$ze$wu$sa$mikp$lokp$mikq!dROMANysmi%md%km%lj%lo%pl%lk%lh%mz%ta%ze%w
u%sa%mikp%lokp%mikq!ROMANysmikqC D$lokq$takq$lgmikp!pidalgC!ROMANysplLATEe$saEARLYe%kq$mikpkq!VU
LGARrgokTHIRDS!lwmhmd$km@2190!kcf!lff!kaf!kof!kkhf!UPmvf!purmf#qpf!qlqpf#rmf!kcfbkj!kafbkj!kcWAV
Ef!kaWAVEf!kcmdHEADEDf!lfmdHEADEDf!kamdHEADEDf!komdHEADEDf!kcfbrk!kafbrk!kcfvfpq!lffvfpq!kafvfpq
!kofvfpq!UPmvfbBASE!kcfbll!kafbll!kcfbLOOP!kafbLOOP!kkhWAVEf$fbkj!koZIGZAGf!lffbTIPkc&ka!kofbTIP
kc&ka!kafbqoko!kofbqokc!ocTOP SEMICIRCLEf!ssTOP SEMICIRCLEf!purmfTOoxpq!kcfTOpqnmkafTOpq!ocotlef
!ssotlef!kcmuboalf&ko!lfmuboaka&kc!kamuboalf&ko!komuboaka&kc!kafnmkcf!lffkcOFkof!kcfnmkaf#PAIRED
vc!lfPAIREDvc!kaPAIREDvc!koPAIREDvc!kcmunmkamu!kamunmkcmu!kckbfbkj!kkhkbfbkj!kakbfbkj!kckbf!lfkb
f!kakbf!kokbf!kkhkbf!UPmvkbf!purmkbf#qpkbf!qlqpkbf#rmkbf!kcohf!kaohf!kcSQUIGGLEf!kaSQUIGGLEf!lff
bkbkj!kofbkbkj!kcxvf!lfxvf!kaxvf!koxvf!kcfTOpq!kafTOpq!kcksf!lfksf!kaksf!koksf!lfksfvfpq%ON PEDE
STAL(bkipq)kdpq$kbf&ON PEDESTAL!kaksfvfWALL!purmfTOqo!qlqpfTOqo!UPmvksf!hfbdle!kofkcOFlff!kmkavc
!kcfbkdkj!kafbkdkj!kkhfbkdkj!kcfbkbkdkj!kafbkbkdkj!kkhfbkbkdkj!kcOPEN-HEADEDf!kaOPEN-HEADEDf!kkh
OPEN-HEADEDf!FOR ALL!COMPLEMENT!PARTIALxa!THERE EXISTS#DOESvtEXIST!EMPTY SET!INCREMENT!NABLA!ynO
F!vtANynOF!dynOF!zpAS MEMBER!DOESvtCONTAIN AS MEMBER!dzpAS MEMBER!END OF PROOF!N-ARYvq#COPRODUCT
#SUMMATION!wyg!MINUS-OR-PLUSg!mmmn!zryx!SETwy!mxne!nxne!wrne!ldROOT!CUBE ROOT!FOURTH ROOT!PROPOR
TIONAL TO!INFINITY!hpe!pe!MEASUREDpe!SPHERICALpe!DIVIDES!DOESvtDIVIDE!PARALLEL TO!vtPARALLEL TO!
vlkx#OR!oz!yh!rh!kbrh!ohrh!CONTOURrh!SURFACErh!VOLUMErh!ssrh#CONTOURrh!ocCONTOURrh!THEREFORE!BEC
AUSE!RATIO!PROPORTION!mmwy!EXCESS!GEOMETRIC PROPORTION!HOMOTHETIC!mgne!lgmg!lqLAZY S!SINE WAVE!W
REATHvq!vtmg!wymg!ASYMPTOTICALLYlyTO!vtASYMPTOTICALLYlyTO!zalyTO#BUTvtACTUALLYlyTO!NEITHERzaNO
R ACTUALLYlyTO!vblyTO!vtvblyTO!vblyORlyTO!ohmg!ALLlyTO!raTO!GEOMETRICALLYraTO!DIFFERENCEtb!APPRO
ACHES THE LIMIT!GEOMETRICALLYlyTO!zalyTO OR THE IMAGE OF!IMAGE OF ORzalyTO!siqb!qbsi!nxINlyTO#ly
TO!CORRESPONDS TO!ESTIMATES!EQUIANGULAR TO!qwqb!vwlyTO!lyTO BY DEFINITION!MEASURED BY!QUESTIONED
lyTO!vtlyTO!IDENTICAL TO!vtIDENTICAL TO!STRICTLYraTO!lmORlyTO!kyORlyTO!lmnmlyTO!kynmlyTO!lmBUTvt
lyTO!kyBUTvtlyTO!MUCHlm#ky!tb!vtraTO#lm#ky!NEITHERlmNORlyTO#kyNORlyTO!lmORraTO!kyORraTO!NEITHERl
mNORraTO#kyNORraTO!lmORky!kyORlm!NEITHERlmNORky#kyNORlm!ua!uc!uaORlyTO!ucORlyTO!uaORraTO!ucORraT
O!DOESvtPRECEDE$SUCCEED!rxOF!pzOF!vtArxOF$pzOF!rxOF ORlyTO!pzOF ORlyTO!NEITHER ArxOF NORlyTO$pzO
F NORlyTO!rxOFbvtlyTO!pzOFbvtlyTO!MULTISET#qs#yh!ldIMAGE OF#ORIGINAL OF#IMAGE OF ORlyTO#ORIGINA
L OF ORlyTO#CAP#CUP!nbmn#wy#li#zryx#mmne#nxne#mxne#qb#td!oqmn#wy#li#mmne!hun!kkun!mvun!UPun!ASSE
RTION!MODELS!TRUE!FORCES!ohkdpqhxr!kbkdpqkbhxr!DOESvtPROVE!vtTRUE!DOESvtFORCE!NEGATEDkbkdpqkbhxr
!uaUNDER RELATION!ucUNDER RELATION!NORMAL SUBGROUP OF!zpAS NORMAL SUBGROUP!NORMAL SUBGROUP OF OR
lyTO!zpAS NORMAL SUBGROUP ORlyTO!ORIGINAL OF!IMAGE OF!MULTIMAP!HERMITIAN CONJUGATE MATRIX!INTERC
ALATE!XOR!NAND!NOR!hpebARC#kw!N-ARYvlkx$OR#oz#yh!nyne!mmne!qwne!zrli!BOWTIE!kkNORMAL FACTOR SEMI
DIRECTvq!hNORMAL FACTOR SEMIDIRECTvq!kkSEMIDIRECTvq!hSEMIDIRECTvq!lgmgqb!tqvlOR$kx!kbrx#pz#oz#yh
!PITCHFORK!lykxPARALLEL TO!lmbmm!kybmm!wpMUCHlm$ky!lmlyTO ORky!kylyTO ORlm!lyTO ORlm%ky%ua%uc!DO
ESvtPRECEDE ORly$SUCCEED ORly!vtldIMAGE OF ORlyTO$ORIGINAL OF ORlyTO!ldIMAGE OF ORvtlyTO#ORIGINA
L OF ORvtlyTO!lmBUTvtraTO!kyBUTvtraTO!uaBUTvtraTO!ucBUTvtraTO!vtNORMAL SUBGROUP OF!DOESvtCONTAI
N AS NORMAL SUBGROUP!vtNORMAL SUBGROUP OF ORlyTO!DOESvtCONTAIN AS NORMAL SUBGROUP ORly!kdzt!MIDL
INEkizt!UPhnczt!mvhnczt!ynOFboxkikj%kdpqAT END OFkikj!dynOFbkdpqAT END OFkikj!ynOFbmmi%vo!dynOFb
vo!ynOFbpt%mdkiSTROKES!zpboxkikj$kdpqAT END OFkikj!dzpbkdpqAT END OFkikj!zpbvo!dzpbvo!Z NOTATIO
N BAG MEMBERSHIP!DIAMETERg!ELECTRICf!HOUSE!UPlc!mvlc!PROJECTIVE!PERSPECTIVE!WAVYqj!kkCEILING!hCE
ILING!kkFLOOR!hFLOOR!qnhCROP#kkCROP!TOPhCROP#kkCROP!lgvtg!ldvm!ARC!SEGMENT!SECTOR!toRECORDER!POS
ITIONxm!VIEWDATAld!PLACE OF INTERESTg!lwvtg!WATCH!HOURGLASS!TOPkkqo#hqo!qnkkqo#hqo!TOPmrrh!qnmrr
h!FROWN!SMILE!UPlctbmdkiBARS!OPTION KEY!ERASE TO THEh!X IN A RECTANGLE BOX!KEYBOARD!ntpekt!mspek
t!ERASE TO THEkk!BENZENEnx!CYLINDRICITY!ALL AROUND-PROFILE!SYMMETRY!TOTAL RUNOUT!DIMENSION ORIGI
N!CONICAL TAPER!SLOPE!COUNTERBORE!COUNTERSINK!APL FUNCTIONALklI-BEAM%SQUISH QUAD%QUADly&DIVIDE&n
y&JOT&le%leSTILE&JOT%yxpq%zopq%QUADyx&zo&lm&ky%kcVANE%kaVANE%QUADkcf&kaf%lezo%mvunpt%vwSTILE%QUA
DmvCARET&vw%mvunJOT%lfVANE%QUADlff%UPunvo%DEL STILE%QUAD UP CARET&DEL%UPunJOT%koVANE%QUADkof%QUO
TEpt%vwpt%nypt%JOTpt%lept%UP SHOE JOT%QUOTE QUAD%leqw%QUADsi%UPunla%DELla%qwla%JOTla%lela%mvSHO
E STILE%kkSHOE STILE%mgla%kyla%ofpq%DELmg%ZILDE%STILEmg%tnpt%QUADvtly&or%mvCARETmg%UP CARETmg%vi
%RHO%rc%rypt%qmpt%vipt%rcpt%ry!vtCHECKkz!hpebkoZIGZAGf!SHOULDEREDotBOX!BELLkl!kdqjbkrmm!INSERTIO
Nkl!CONTINUOUS UNDERLINEkl!DISCONTINUOUS UNDERLINEkl!EMPHASISkl!COMPOSITIONkl!ksldbnpkdqj!ENTERk
l!ALTERNATIVE KEYkl!HELMkl!nbkipqbNOTCH#kwmv!BROKENlebNORTHWESTf!UNDOkl!MONOSTABLEkl!HYSTERESISk
l!OPEN-CIRCUIT-OUTPUT H-TYPEkl#L-TYPEkl!PASSIVE-PULL-DOWN-OUTPUTkl!PASSIVE-PULL-UP-OUTPUTkl!DIRE
CT CURRENTklemd!SOFTWARE-FUNCTIONkl!APL FUNCTIONALklQUAD!DECIMALoyKEYkl!PREVIOUS PAGE!NEXT PAGE!
PRINT SCREENkl!CLEAR SCREENkl!kkltnhll$xl$mjll!hltnhll$xl$mjll!kkldktnhqo%xl%mjqo!hldktnhqo%xl%m
jqo!kktqktnhll%krPIECE%mjll!tqktxl!htqktnhll%krPIECE%mjll!rhxl!kiqjxl!nhkkORmjhtqktqy#hORmjkktqk
tqy!SUMMATION TOP#qn!TOPldkt!qnldkt%nmTOPldkt!RADICALklqn!kkkdBOXqj!hkdBOXqj!kiSCAN LINE-1$LINE-
3$LINE-7$LINE-9!DENTISTRYklmbkdkxTOPh(qnh&ble%mvkxkible%UPkxkible%kdbkw%mvkxkibkw%UPkxkibkw%kdkx
WAVE%mvkxkibWAVE%UPkxkibWAVE%mvkxki%UPkxki%kdkxTOPkk(qnkk!ldFOOT!RETURNkl!EJECTkl!kdqjxl!METRICA
Lou#oxnmpj#pjnmox#oxnmmdSHORTS#mdSHORTSnmox%JOINED#TRISEME#TETRASEME#PENTASEME!EARTH GROUND!FUSE
!TOPlt!qnlt!TOPtqkt!qntqkt!TOPruuhkt!qnruuhkt!ksTRAPEZIUM!BENZENEnxble!STRAIGHTNESS!FLATNESS!A
C CURRENT!ELECTRICALoz!DECIMAL EXPONENTkl!knmskbkw#ntkbkw#qukbkw#qrkbkw#mskbkwbkdpq#ntkbkwbkdpq#
mskwbkbkdpq!ALARM CLOCK!STOPWATCH!TIMER CLOCK!HOURGLASSbFLOWING SAND!knluntkw$mskw$qukw$qrkw!kbk
dpq!knldFORpr#leFOR RECORD!POWERkl#ON-OFFkl#ONkl#SLEEPkl!OBSERVER EYEkl!klFOR NULL$START OF HEAD
ING&TEXT$END OF TEXT&TRANSMISSION$ENQUIRY$ACKNOWLEDGE$BELL$BACKSPACE$kiTABULATION$qjFEED$kdTABUL
ATION$eFEED$CARRIAGE RETURN$SHIFT OUT%IN$DATA LINK ESCAPE$DEVICE CONTROLmi&md&km&lj$suACKNOWLEDG
E$SYNCHRONOUS IDLE$END OF TRANSMISSIONom$CANCEL$END OFlu$SUBSTITUTE$ESCAPE$FILEoy$GROUPoy$RECORD
oy$UNIToy$va$DELETE!BLANKkl!otBOX!klFOR NEWLINE$DELETEemd$SUBSTITUTEemd@2440!OCRll#CHAIR#FORK#lq
FORK#BELT BUCKLE#BOW TIE#BRANCH BANK IDENTIFICATION#AMOUNT OF CHECK#td#CUSTOMER ACCOUNTng#kbzo@2
460!nbmhmi$md$km$lj$lo$pl$lk$lh$mz#ngta$ze$wu$THIRTEEN$zv$xb$yw$xo$xx$zz$pc!PARENTHESIZEDmhmi$md
$km$lj$lo$pl$lk$lh$mz#ngta$ze$wu$THIRTEEN$zv$xb$yw$xo$xx$zz$pc!mhmirtpr#mdrtpr#kmrtpr#ljrtpr#lor
tpr#plrtpr#lkrtpr#lhrtpr#mzrtpr!ngtartpr#zertpr#wurtpr#THIRTEENrtpr#zvrtpr#xbrtpr#ywrtpr#xortpr#
xxrtpr#zzrtpr#pcrtpr!PARENTHESIZEDpidaA&B&C&D&E&F&G&H&I&J&K&L&M&N&O&P&Q&R&S&T&U&V&W&X&Y&Z!nbpica
A&B&C&D&E&F&G&H&I&J&K&L&M&N&O&P&Q&R&S&T&U&V&W&X&Y&Z$daA&B&C&D&E&F&G&H&I&J&K&L&M&N&O&P&Q&R&S&T&U&
V&W&X&Y&Z#mhok!sunbngze%wu%THIRTEEN%zv%xb%yw%xo%xx%zz%pc!kbnbmhmi%md%km%lj%lo%pl%lk%lh%mz$ngta!s
unbmhok!BOX DRAWINGSmbki$lbki$mbkd$lbkd$mbohtdki$lbohtdki$mbohtdkd$lbohtdkd$mbugtdki$lbugtdki$mb
ugtdkd$lbugtdkd$mbmvkxh$mvmbkxhlb%lbkxhmb$lbmvkxh$mbmvkxkk$mvmbkxkklb%lbkxkkmb$lbmvkxkk$mbUPkxh$
UPmbkxhlb%lbkxhmb$lbUPkxh$mbUPkxkk$UPmbkxkklb%lbkxkkmb$lbUPkxkk$mbkdkxh$kdmbkxhlb$UPlbkxhmvmb$mv
lbkxhUPmb$kdlbkxhmb$mvmbkxhUPlb$UPmbkxhmvlb$lbkdkxh$mbkdkxkk$kdmbkxkklb$UPlbkxkkmvmb$mvlbkxkkUPm
b$kdlbkxkkmb$mvmbkxkkUPlb$UPmbkxkkmvlb$lbkdkxkk$mbmvkxki$kklbkxhmvmb$hlbkxkkmvmb$mvmbkxkilb%lbkx
kimb$hmbkxkkmvlb$kkmbkxhmvlb$lbmvkxki$mbUPkxki$kklbkxhUPmb$hlbkxkkUPmb$UPmbkxkilb%lbkxkimb$hmbkx
kkUPlb$kkmbkxhUPlb$lbUPkxki$mbkdkxki$kklbkxhkdmb$hlbkxkkkdmb$kdmbkxkilb$UPlbkxmvkimb$mvlbkxUPkim
b$kdlbkxkimb$kkUPlbkxhmvmb$hUPlbkxkkmvmb$kkmvlbkxhUPmb$hmvlbkxkkUPmb$mvmbkxUPkilb$UPmbkxmvkilb$h
mbkxkkkdlb$kkmbkxhkdlb$lbkdkxki$mbkbtdki$lbkbtdki$mbkbtdkd$lbkbtdkd$kbki%kd$mvmtkxhkb%kbkxhmt$kb
mvkxh$mvmtkxkkkb%kbkxkkmt$kbmvkxkk$UPmtkxhkb%kbkxhmt$kbUPkxh$UPmtkxkkkb%kbkxkkmt$kbUPkxkk$kdmtkx
hkb%kbkxhmt$kbkdkxh$kdmtkxkkkb%kbkxkkmt$kbkdkxkk$mvmtkxkikb%kbkxkimt$kbmvkxki$UPmtkxkikb%kbkxkim
t$kbUPkxki$kdmtkxkikb%kbkxkimt$kbkdkxki$mbARCmvkxh)kk&UPkxkk)h%ncnhhTOmjkk(kkTOmjh&qd%kk%UP%h%mv
$lbkk%UP%h%mv$mbkkkxlbh%UPkxlbmv$lbkkkxmbh%UPkxmbmv!nhmrom!mjmirrom$paom#kmueom#mrom#loueom#kmsw
om#lkueom!rtom!kklkueom#kmswom#loueom#mrom#kmueom#mipaom$rrom!hmrom!mbSHADE!luSHADE!DARK SHADE!n
hmirrom!hmirrom!svmjkk$h#nhkk%kxmjkkkxmjh(h&nhhkxmjkk+h$h%kxmjkk)kxmjh!knld!ksld$byuCORNERS$xukn
dld!ldbkiFILL$kdFILL$ORTHOGONAL CROSSHATCH FILL$nhkkTOmjhFILL%hTOmjkkFILL$ncCROSSHATCH FILL!kndl
d!ksdld!knRECTANGLE!ksRECTANGLE!knkdRECTANGLE!kskdRECTANGLE!knPARALLELOGRAM!ksPARALLELOGRAM!knqu
kw!ksqukw!knqudkw!ksqudkw!knmskw!ksmskw!knmsdkw!ksmsdkw!knmsPOINTER!ksmsPOINTER!knqrkw!ksqrkw!kn
qrdkw!ksqrdkw!knntkw!ksntkw!knntdkw!ksntdkw!knntPOINTER!ksntPOINTER!knny!ksny$xukndny!FISHEYE!vm
!ksle!pole!lebkdFILL!BULLSEYE!knle!lebkkmrkn$hmrkn$mjmrkn$nhmrkn%hsvkn$ALL BUTnhkksvkn!kkmrknle!
hmrknle!ypwr#ksle!nhmrypksle!mjmrypksle!nhkksvCIRCULAR ARC#hsvCIRCULAR ARC!mjhsvCIRCULAR ARC#kks
vCIRCULAR ARC!nhmrle!mjmrle!knmjhkw$kkkw#nhkkkw$hkw!kswr!ldbkkmrkn$hmrkn$nhkkncmrkn$mjhncmrkn!ks
ldbkdBISECTINGqj#qukwbmm!qukwbkkmrkn%hmrkn!nsle!ksldbnhkksv%mjkksv&hsv%nhhsv#lebnhkksv%mjkksv&hs
v%nhhsv!nhkkkw#hkw!mjkkkw!ksluld!knluld!ksludld!knludld!mjhkw!knSUNbRAYS!CLOUD!UMBRELLA!SNOWMAN!
COMET!knqw!ksqw!LIGHTNING!THUNDERSTORM!SUN!ASCENDING NODE!DESCENDING NODE!CONJUNCTION!OPPOSITION
!knto!ksto!BALLOT BOX$bCHECK%X!xe!UMBRELLAbRAIN DROPS!HOT BEVERAGE!ksSHOGI PIECE!knSHOGI PIECE!S
HAMROCK!lgmfFLORALstwr!knkklrma#hlrma!kskklrma#UPlrma#hlrma#mvlrma!SKULLkxCROSSBONES!CAUTIONg!RA
DIOACTIVEg!BIOHAZARDg!CADUCEUS!ANKH!ORTHODOXqd!CHI RHO!qdOF LORRAINE$JERUSALEM!qwkxCRESCENT!FARS
Ikl!ADI SHAKTI!HAMMERkxSICKLE!PEACEkl!YIN YANG!TRIGRAM FOR HEAVEN$LAKE$FIRE$THUNDER$WIND$WATER$z
x$EARTH!WHEEL OF DHARMA!ksFROWNINGni#tgni!kntgni!ksSUNbRAYS!FIRSTpaxd!LASTpaxd!MERCURY!FEMALEg!E
ARTH!MALEg!JUPITER!SATURN!URANUS!NEPTUNE!PLUTO!ARIES!TAURUS!GEMINI!CANCER!LEO!VIRGO!LIBRA!SCORPI
US!SAGITTARIUS!CAPRICORN!AQUARIUS!PISCES!ksscKING$yt$ROOK$zc$ri$PAWN!knscKING$yt$ROOK$zc$ri$PAWN
#SPADE SUIT!ksstSUIT#nySUIT!knCLUB SUIT!ksSPADE SUIT!knstSUIT#nySUIT!ksCLUB SUIT!HOT SPRINGS!paN
OTE!rrNOTE!BEAMEDrrNOTES#SIXTEENTH NOTES!MUSIC FLATg#NATURALg#SHARPg!rmSYRIACqd!qpSYRIACqd!UNIVE
RSAL RECYCLINGkl!RECYCLINGklFOR TYPE-1 PLASTICS%TYPE-2 PLASTICS%TYPE-3 PLASTICS%TYPE-4 PLASTICS%
TYPE-5 PLASTICS%TYPE-6 PLASTICS%TYPE-7 PLASTICS%GENERIC MATERIALS!knUNIVERSAL RECYCLINGkl!RECYCL
ED PAPERkl!PARTIALLY-RECYCLED PAPERkl!PERMANENT PAPERg!WHEELCHAIRkl!DIE FACE-1#FACE-2#FACE-3#FAC
E-4#FACE-5#FACE-6!kslebmmh%mdnk!knlebksmmh%mdksnk!MONOGRAM FOR YANG$YIN!DIGRAM FOR GREATER YANG$
LESSER YIN%YANG$GREATER YIN!ksFLAG!knFLAG!HAMMERkxPICK!ANCHOR!veSWORDS!STAFF OF AESCULAPIUS!SCAL
ES!ALEMBIC!FLOWER!GEAR!STAFF OF HERMES!ATOMkl!FLEUR-DE-LIS!OUTLINEDksqw!kmLINES CONVERGINGh%kk!W
ARNINGg!pmVOLTAGEg!DOUBLED FEMALEg#MALEg!INTERLOCKED FEMALEkxMALEg!MALEkxFEMALEg#bkjg%kxMALEkxFE
MALEg!kdMALEbkjg!kiMALEbkjg!luksle#knle#dksle!MARRIAGEkl!DIVORCEkl!UNMARRIED PARTNERSHIPkl!COFFI
N!FUNERAL URN!NEUTER!CERES!PALLAS!JUNO!VESTA!CHIRON!knxdLILITH!SEXTILE!SEMISEXTILE!QUINCUNX!SESQ
UIQUADRATE!SOCCER BALL!BASEBALL!oqKEY!ksDRAUGHTS MAN$KING!knDRAUGHTS MAN$KING!SNOWMAN WITHOUT SN
OW!SUN BEHIND CLOUD!RAIN!knSNOWMAN!THUNDER CLOUDkxRAIN!lwksSHOGI PIECE#knSHOGI PIECE!ksnyINld!og
LANES!DISABLED CAR!OPHIUCHUS!PICK!CAR SLIDING!HELMETbksqd!nbogLANES!CHAINS!NO ENTRY!pfONE-WAYkkW
AY TRAFFIC!knTWO-WAYkkWAY TRAFFIC!ksTWO-WAYkkWAY TRAFFIC!knkkLANE MERGE!kskkLANE MERGE!DRIVE SLO
Wg!lbksqrkw!kkqaENTRY!oqxe!FALLINGncINksleINknld!knTRUCK!RESTRICTEDkkENTRY-1$ENTRY-2!ASTRONOMICA
LklFOR URANUS!lblebkjkxmdnki!PENTAGRAM!RIGHT-HANDED INTERLACED PENTAGRAM!LEFT-HANDED INTERLACE
D PENTAGRAM!lqPENTAGRAM!knqdON SHIELD!SHINTO SHRINE!CHURCH!CASTLE!HISTORIC SITE!GEAR WITHOUT HUB
#bHANDLES!MAPklFOR LIGHTHOUSE!zx!UMBRELLA ON GROUND!FOUNTAIN!FLAG IN HOLE!FERRY!SAILBOAT!ldljCOR
NERS!SKIER!ICE SKATE!vpbBALL!TENT!JAPANESE BANKkl!HEADSTONE GRAVEYARDkl!FUEL PUMP!CUP ONknld!ksF
LAGbkikrknSTRIPE!knSAFETY SCISSORS!nhBLADE SCISSORS!knSCISSORS!mjBLADE SCISSORS!ksSCISSORS#lbCHE
CKkz!toLOCATIONg!TAPE DRIVE!AIRPLANE!xy!rvFIST#vg!VICTORYvg!WRITINGvg!mjhPENCIL!PENCIL!nhhPENCIL
!ksNIB!knNIB!CHECKkz!lbCHECKkz!qsX!lbqsX!BALLOT X!lbBALLOT X!OUTLINEDtwqd!lbtwqd!otnpqd!lbotnpqd
!piqd!ubkspiqd!OUTLINEDpiqd!MALTESEqd!qwOF DAVID!ljtmmx#BALLOON-SPOKEDmx!lbljBALLOON-SPOKEDmx!lj
CLUB-SPOKEDmx!knljopqw!ksljopqw!SPARKLES!STRESS OUTLINEDksqw!nbksqw!otnpknqw!knnpksqw!OUTLINEDkn
qw!lbOUTLINEDknqw!ybqw!ubksqw!lbmx!otnpmx!lhujmx#opknqw$ybqw!plopknqw!lhopRECTILINEARknqw!lblhop
RECTILINEARknqw!wuopknqw!ywopmx!tmmx!otnptmmx!lbtmmx!plPETALLEDknkxksFLORETTE!knFLORETTE!ksFLORE
TTE!lhPETALLED OUTLINEDknFLORETTE!nbotnplhopqw!lbtmybmx!SNOWFLAKE!TIGHT TRIFOLIATE SNOWFLAKE!lbC
HEVRON SNOWFLAKE!SPARKLE!lbSPARKLE!BALLOON-SPOKEDmx!lhtmPROPELLERmx!lblhtmPROPELLERmx!qdkz!ubksl
e!suoqqdkz!mjhDROP-SHADOWEDksld!nhhDROP-SHADOWEDksld!mjhubksld!nhhubksld!knorkzme!ksorkzme#nokzm
e!knnywyksX!lbnokzkl!mbkdpq!lukdpq!lbkdpq#mtlwofnwkzme$ofnwkzme#kblwofnwkzme$ofnwkzme#sbmtofnwkz
me$kbofnwkzme!CURVED STEM PARAGRAPHgme!lbnokzme#stnokzme#knst!mflbknstwr!FLORALst!mfFLORALstwr!l
ukkltme#hltme#FLATTENEDkkltme$hltme#ntpektme#mspektme!lbntpenwkzme#mspenwkzme#ntpektme#mspektme!
mbkkruuhktme#hruuhktme!lukktqktme#htqktme!DINGBATsunbmhmi&md&km&lj&lo&pl&lk&lh&mz%ngta#nbojmhmi&
md&km&lj&lo&pl&lk&lh&mz%ngta#sunbojmhmi(md(km(lj(lo(pl(lk(lh(mz&ngta!lbWIDE-HEADEDkaf#mng#wyg#zr
g#qlqpf#kaf#puqpf!DRAFTING POINTkaf!lbROUND-TIPPEDkaf!kekaf!lbkekaf!xvkekaf!lbxvkekaf!knkaf!THRE
E-D TOP-LIGHTEDkalc#BOTTOM-LIGHTEDkalc!knkalc!lbknCURVEDkokxkaf%lfkxkaf!SQUATknkaf!lbCONCAVE-POI
NTEDknkaf!RIGHT-SHADEDkskaf!LEFT-SHADEDkskaf!BACK-TILTEDubkskaf!FRONT-TILTEDubkskaf!lbmjRIGHT-SH
ADOWEDkskaf#nhRIGHT-SHADOWEDkskaf!NOTCHEDmjRIGHT-SHADOWEDkskaf!tqLOOP!NOTCHEDnhRIGHT-SHADOWEDksk
af!nblbkskaf!WHITE-FEATHEREDkaf!BLACK-FEATHEREDqlqpf#kaf#puqpf!lbBLACK-FEATHEREDqlqpf$kaf$puqpf!
TEARDROP-BARBEDkaf!lbTEARDROP-SHANKEDkaf!WEDGE-TAILEDkaf!lbWEDGE-TAILEDkaf!OPEN-OUTLINEDkaf!kbtq
LOOP!kmDIMENSIONALpe!kskwxudkskw!PERPENDICULAR!otrx#pz!kkS-SHAPED BAG DELIMITER!hS-SHAPED BAG DE
LIMITER!ORbmmtx!rwqzPRECEDINGrx!pzPRECEDINGqz!kdpqbkikj!xcycnc!oxzr!xcFALLINGnc!oqvlkx$OR!ksnybC
ENTREDmm!kxbmm!ynOF OPENINGlf!mjhqobmm!nhkkqobmm!kkOUTER JOIN!hOUTER JOIN!rtOUTER JOIN!nsUPun#mv
un!kkkxhkbxr%un#MULTIMAP!oxhun#kkun!UPunblei!vmDIVIDED BYkiRULE!ksCONCAVE-SIDEDny%bkcTICK&kaTICK
#ldbkcTICK%kaTICK!xckkksldkt#hksldkt#kkpekt#hpekt#kkkbpekt#hkbpekt#kkksruuhkt#hksruuhkt#kkFLATTE
NEDlt#hFLATTENEDlt!lfugf!kougf!ocGAPPEDlef!ssGAPPEDlef!hfbnbmn!oxkcf#kaf#kkhf#kckbf#kakbf#kkhkbf
#kcfvfpq#kafvfpq#kckbfvfpq#kakbfvfpq$SQUIGGLEf!BRAILLE PATTERN BLANK$DOTS-1$DOTS-2$DOTS-12$DOTS-
3$DOTS-13$DOTS-23$DOTS-123$DOTS-4$DOTS-14$DOTS-24$DOTS-124$DOTS-34$DOTS-134$DOTS-234$DOTS-1234$D
OTS-5$DOTS-15$DOTS-25$DOTS-125$DOTS-35$DOTS-135$DOTS-235$DOTS-1235$DOTS-45$DOTS-145$DOTS-245$DOT
S-1245$DOTS-345$DOTS-1345$DOTS-2345$DOTS-12345$DOTS-6$DOTS-16$DOTS-26$DOTS-126$DOTS-36$DOTS-136$
DOTS-236$DOTS-1236$DOTS-46$DOTS-146$DOTS-246$DOTS-1246$DOTS-346$DOTS-1346$DOTS-2346$DOTS-12346$D
OTS-56$DOTS-156$DOTS-256$DOTS-1256$DOTS-356$DOTS-1356$DOTS-2356$DOTS-12356$DOTS-456$DOTS-1456$DO
TS-2456$DOTS-12456$DOTS-3456$DOTS-13456$DOTS-23456$DOTS-123456$DOTS-7$DOTS-17$DOTS-27$DOTS-127$D
OTS-37$DOTS-137$DOTS-237$DOTS-1237$DOTS-47$DOTS-147$DOTS-247$DOTS-1247$DOTS-347$DOTS-1347$DOTS-2
347$DOTS-12347$DOTS-57$DOTS-157$DOTS-257$DOTS-1257$DOTS-357$DOTS-1357$DOTS-2357$DOTS-12357$DOTS-
457$DOTS-1457$DOTS-2457$DOTS-12457$DOTS-3457$DOTS-13457$DOTS-23457$DOTS-123457$DOTS-67$DOTS-167$
DOTS-267$DOTS-1267$DOTS-367$DOTS-1367$DOTS-2367$DOTS-12367$DOTS-467$DOTS-1467$DOTS-2467$DOTS-124
67$DOTS-3467$DOTS-13467$DOTS-23467$DOTS-123467$DOTS-567$DOTS-1567$DOTS-2567$DOTS-12567$DOTS-3567
$DOTS-13567$DOTS-23567$DOTS-123567$DOTS-4567$DOTS-14567$DOTS-24567$DOTS-124567$DOTS-34567$DOTS-1
34567$DOTS-234567$DOTS-1234567$DOTS-8$DOTS-18$DOTS-28$DOTS-128$DOTS-38$DOTS-138$DOTS-238$DOTS-12
38$DOTS-48$DOTS-148$DOTS-248$DOTS-1248$DOTS-348$DOTS-1348$DOTS-2348$DOTS-12348$DOTS-58$DOTS-158$
DOTS-258$DOTS-1258$DOTS-358$DOTS-1358$DOTS-2358$DOTS-12358$DOTS-458$DOTS-1458$DOTS-2458$DOTS-124
58$DOTS-3458$DOTS-13458$DOTS-23458$DOTS-123458$DOTS-68$DOTS-168$DOTS-268$DOTS-1268$DOTS-368$DOTS
-1368$DOTS-2368$DOTS-12368$DOTS-468$DOTS-1468$DOTS-2468$DOTS-12468$DOTS-3468$DOTS-13468$DOTS-234
68$DOTS-123468$DOTS-568$DOTS-1568$DOTS-2568$DOTS-12568$DOTS-3568$DOTS-13568$DOTS-23568$DOTS-1235
68$DOTS-4568$DOTS-14568$DOTS-24568$DOTS-124568$DOTS-34568$DOTS-134568$DOTS-234568$DOTS-1234568$D
OTS-78$DOTS-178$DOTS-278$DOTS-1278$DOTS-378$DOTS-1378$DOTS-2378$DOTS-12378$DOTS-478$DOTS-1478$DO
TS-2478$DOTS-12478$DOTS-3478$DOTS-13478$DOTS-23478$DOTS-123478$DOTS-578$DOTS-1578$DOTS-2578$DOTS
-12578$DOTS-3578$DOTS-13578$DOTS-23578$DOTS-123578$DOTS-4578$DOTS-14578$DOTS-24578$DOTS-124578$D
OTS-34578$DOTS-134578$DOTS-234578$DOTS-1234578$DOTS-678$DOTS-1678$DOTS-2678$DOTS-12678$DOTS-3678
$DOTS-13678$DOTS-23678$DOTS-123678$DOTS-4678$DOTS-14678$DOTS-24678$DOTS-124678$DOTS-34678$DOTS-1
34678$DOTS-234678$DOTS-1234678$DOTS-5678$DOTS-15678$DOTS-25678$DOTS-125678$DOTS-35678$DOTS-13567
8$DOTS-235678$DOTS-1235678$DOTS-45678$DOTS-145678$DOTS-245678$DOTS-1245678$DOTS-345678$DOTS-1345
678$DOTS-2345678$DOTS-12345678!katifbkdkj&kbkdkj!kckbfbkdkj!kakbfbkdkj!kkhkbfbkdkj!katifvfpq!kck
bfvfpq!kakbfvfpq!kofbkikj!lffbkikj#ohf!koohf!kckbtdf!kakbtdf!kcohtdf!kaohtdf#tiohtdf#fbpoSTEM!lf
fTOpq!kofTOpq!kafbrkbkdkj(kbkdkj#tifbrk(bkdkj)kbkdkj!kcARROW-TAIL!kaARROW-TAIL!kckbARROW-TAIL!ka
kbARROW-TAIL!kcfTOknny!kafTOknny!kcfvfpqTOknny!kafvfpqTOknny!purmkxqlqpf#qpkxqlrmf#rmfbll#qpfbll
!qlqpfbll#rmfbll!purmfkxpuqpf#qpfkxqlqpf!qlqpfkxqlrmf#rmfkxpurmf!ycncogFALLINGnc!FALLINGncogycnc
!qlqpfogpuqpf!puqpfogqlqpf!FALLINGncogpuqpf!ycncogqlqpf!puqpfogpurmf#rmfogpuqpf!WAVEflrDIRECTLYh
!flrkaTHEN CURVINGlf(ko$koTHEN CURVINGkc(ka!RIGHT-SIDE ARCssf!LEFT-SIDE ARCocf!TOP ARCocf!qnARCo
cf!TOP ARCssfbwy$ocfbmn!mjhSEMICIRCULARssf#kkSEMICIRCULARocf!ocqalef!ssqalef!kafipjkcf!kcfipjkaf
!pjkafikcf!kafbmnkg!kcfbmnkg!kafuqX!kkhfuqdle!lftifvfdle!kkoaUPhoamvmu$mvhoaUPmu!UPoahmvoakkmu$k
kmvoahmu!kkoaUPhoaUPmu!UPoahmvoahmu!kkoamvhoamvmu!UPoakkmvoakkmu!kcmuboaUP TOpq!kamuboaUP TOpq!l
fmuboahTOpq!komuboahTOpq!kcmuboamvTOpq!kamuboamvTOpq!lfmuboakkTOpq!komuboakkTOpq!kcmuboaUPvfpq!k
amuboaUPvfpq!lfmuboahvfpq!komuboahvfpq!kcmuboamvvfpq!kamuboamvvfpq!lfmuboakkvfpq!komuboakkvfpq!k
cmuboaUPikcmuboamv!lfmuboakkBESIDElfmuboah!kamuboaUPikamuboamv!komuboakkBESIDEkomuboah!kcmuboaUP
ikamuboaUP&mvikamuboamv!kamuboaUPikcmuboaUP&mvikcmuboamv!kcmuboaUPioxtd&mvkgoxtd!kamuboaUPioxtd&
mvkgoxtd!lfmuboakkBESIDEkomuboah!komuboakkBESIDElfmuboah!hkbfbyuHEAD!qbgikaf!mgneikaf!kcfimgne!k
afimgne%vblyTO!lmikcf!kcfuqlm!kyikaf!rxikaf!kcfuqrx!pzikcf!kkFISHrk!hFISHrk!UP FISHrk!mvFISHrk!o
hkdpqDELIMITER!Z NOTATION SPOT$TYPEsi!kkkstqkt!hkstqkt!kkkslt!hkslt!Z NOTATIONkkIMAGEkt$hIMAGEkt
$kkBINDINGkt$hBINDINGkt!kkldktbpt!hldktbpt!kkldktbTICK IN TOPqo!hldktbTICK INqnqo!kkldktbTICK IN
qnqo!hldktbTICK IN TOPqo!kkpektbmm!hpektbmm!kkARClmkt!hARCkykt!kbkkARCkykt#hARClmkt!kkknruuhkt!h
knruuhkt!poFENCE!kdZIGZAGqj!MEASUREDpeOPENINGkk!hperqbld!MEASUREDhpebmm!pebStx!mqpe!SPHERICALpeO
PENINGkk%UP!lwpe!lgpe!pebpt!lgpebpt!ufpeOPENING UP%mv!MEASUREDpebotARM ENDING INflrUPkxh:kk,mvkx
h:kk,hkxUP,kkkxUP,hkxmv,kkkxmv!lgEMPTY SET!EMPTY SETbvo%dlei%hfi%kkfi!lebkipq!nbkdpq#PARALLEL#rw
qz#PERPENDICULAR!leDIVIDED BYkipqkxTOPmrDIVIDED BYkdpq#bSUPERIMPOSED X!nbANTICLOCKWISE-ROTATEDzr
g!UPfuqle!nbkswr#wr#lm#ky!lebdleTO THEh$mdkiSTROKES TO THEh!oqycncyx#FALLINGncyx#mx#dle#ld!mdJOI
NED SQUARES!kwbmmi$pt!S INkw!kwbSERIFS ATqn!hkwikkkw!kkkwBESIDEkdpq!kdpqBESIDEhkw!BOWTIEbkkmrkn$
hmrkn!knBOWTIE!libkkmrkn$hmrkn!ksHOURGLASS!knHOURGLASS!kkWIGGLY FENCE!hWIGGLY FENCE!kkkbWIGGLY F
ENCE!hkbWIGGLY FENCE!INCOMPLETE INFINITY!TIEnmINFINITY!INFINITY NEGATEDbkdpq!DOUBLE-ENDED MULTIM
AP!ldbCONTOURED OUTLINE!INCREASES AS!SHUFFLEvq!qbgkxrpPARALLEL(bmgi!IDENTICAL TOkxrpPARALLEL!GLE
ICH STARK!THERMODYNAMIC!qrkwbkkmrkn%hmrkn!knnybmvf#vm!kslebmvf!knlebmvf!ERROR-BARREDksld#knld#ks
ny#knny#ksle#knle!RULE-DELAYED!rwqzne!qzbvo!rwqzbkikj!BIGqz#rwqz!kbmn!ohmn!ntCURVEDpekt!msCURVED
pekt!TINY!MINY!N-ARYnbmmne$mnne$line#yhnebmm&mn#ldozne$yhne!mdvlkxne$ORne!N-ARYline!MODULOmdSUM!
SUMMATIONbrh!ugrhne!FINITE PARTrh!rhbkbkj#AVERAGEbyx!CIRCULATION FUNCTION!ocINTEGRATION!qjINTEGR
ATIONbRECTANGULAR PATH AROUND POLE%SEMICIRCULAR PATH AROUND POLE$vtINCLUDING THE POLE!rhAROUN
D A POINTne!QUATERNIONrhne!rhbkcfbll$lig$oz$yh$vo$pt!JOIN!nskkkwne!Z NOTATION SCHEMA COMPOSITION
%PIPING%PROJECTION!mngbdlei%kupki%mgi%mmkg%mgkg%SUBSCRIPTmd%knkw!wygbofi%mmkg%FALLINGnk%ycnk!mng
INkkmrle%hmrle!VECTOR ORqdvq!qsgbmmi%pt!SEMIDIRECTvqbqnqa!SMASHvq!qsgINkkmrle%hmrle!nbqsgbkupk!q
sgINkble!nbzrg!mngINkw!wygINkw!qsgINkw!INTERIORvq!RIGHTHAND INTERIORvq!Z NOTATION RELATIONAL COM
POSITION!AMALGAMATION OR COPRODUCT!ozbmm!yhbwyg$vo!ozbvo$vlkx!yhbvlOR#ioz!oziyh!yhipqioz!ozipqiy
h!yhBESIDEkxJOINEDbyh!ozBESIDEkxJOINEDboz!qayhbSERIFS#ozbSERIFS!kbldoz$yh!qayhbSERIFSkxSMASHvq!v
lkxbmmi#ORbmmi!kbvlkx$OR!mdINTERSECTINGvlkx%OR!SLOPINGnsOR$kx!vlOR OVERLAPPINGvlkx#kxbkrSTEM#ORb
krSTEM#kxbkitd#ORbkitd#kxbkbvo%pt%kbpt!dVEEbpt!vlORbkbvo&pt!Z NOTATION DOMAIN ANTIRESTRICTION$RA
NGE ANTIRESTRICTION!qbgbmmkg!IDENTICALbmmi!ohkipqbkbkdkj&ohkdkj!mgnebmmi%ycnk!SIMILARwySIMILAR!C
ONGRUENTbmmi!qbbmx!vblyTObkupk!zalyORlyTO!qbgimng!mngiqbg!qbgimgne!kbsily!mdCONSECUTIVEqbSIGNS!k
mCONSECUTIVEqbSIGNS!qbgbmdnkikxmdnkkg!rabljnki!lmbletx!kybletx!lmborkzi!kyborkzi!lmORrplyTO!kyOR
rplyTO!lmORrplyTObmmtx!kyORrplyTObmmtx!lmORrplyTObmmi!kyORrplyTObmmi!lmORrplyTObmmih!kyORrplyTOb
mmikk!lmOR APPROXIMATE!kyOR APPROXIMATE!lmkxyvvtlyTO!kykxyvvtlyTO!lmkxvtAPPROXIMATE!kykxvtAPPROX
IMATE!lmiymlyiky!kyiymlyilm!lmiSIMILAR ORly!kyiSIMILAR ORly!lmiSIMILARiky!kyiSIMILARilm!lmikyiym
ly!kyilmiymly!lmirplyikyirply!kyirplyilmirply!rplyTO ORlm&ky&lmbmmtx&kybmmtx!ymlyTO ORlm&ky#rply
TO ORlm(ky!SIMILAR ORlm$ky#ilmiqbg$kyiqbg!kbNESTEDlm$ky$lmbpt!kyOVERLAPPINGlm#BESIDElm!lmqaBYwv!
kyqaBYwv!lmqaBYwvirply!kyqaBYwvirply!SMALLER THAN!LARGER THAN!SMALLER THAN ORlyTO!LARGER THAN OR
lyTO!qbgbBUMPYi!uaiyvqbg!uciyvqbg!uaiyvvtlyTO!uciyvvtlyTO!uaiqbg!uciqbg!uaivtlyTO!ucivtlyTO!uaiv
blyTO!ucivblyTO!uaivtvblyTO!ucivtvblyTO!kbua#uc!rxbmm!pzbmm!rxbmngkg!pzbmngkg!rxbqsgkg!pzbqsgkg!
rxOF ORlyTObmmi!pzOF ORlyTObmmi!rxOFiqbg!pzOFiqbg!rxOFimgne!pzOFimgne!rxOFivblyTO!pzOFivblyTO!rx
OFivtlyTO!pzOFivtlyTO!ldkkotBOXne#hotBOXne!qarx#pz#rxORlyTO#pzORlyTO!rxipz!pzirx!rxirx!pzipz#BES
IDErx$kxJOINED BYtdbrx!ynOF OPENINGko!PITCHFORKbTEE TOP!TRANSVERSALoz!FORKING!NONFORKING!pjkkun#
mvun#UPun!PERPENDICULARbS!kdpqohhxr!kbkdpqkkxr!kdpqkbkkxr!kbkdpqkbkkxr!oxtdvfkkMEMBER OFkbkd!pjm
vunbvo#UPunbpt%ipjmvun!kbmvun#UPun#kjvtg!lgkbkjvtg!DOESvtDIVIDEblgNEGATIONyx!kdqjblei&kg!mvunble
kg!PARALLELbkikj$mgne!ohkdpqBINARY RELATION%bkikj#sine#NESTEDlm$ky!ymrplmORlyTO$kyORlyTO!ohqzBIN
ARY RELATION!nsohkdpqne!kbqzne!kskdpq!N-ARYkskdpq!puqpksf#rmksf!qlqpksf#rmksf!kkhksf!kcknf!lfknf
!koknf!puqpknf#rmknf!qlqpknf#rmknf!kkhknf!UPmvknf!kafbTIPko&lf!kcfbTIPko&lf!ldbTOPmrkn$qnmrkn$nh
hncmrkn$mjkkncmrkn!nybkkmrkn$hmrkn$TOPmrkn$qnmrkn!pold!knnsld!ksnsld!knwpdld!kswpdld!knPENTAGON!
ksPENTAGON#HEXAGON!knHEXAGON!kiknHEXAGON!knnsle#luny!ksluny!knluvm!ksluvm!kndny$vm!ksdvm!knkiELL
IPSE!kskiELLIPSE!knkdELLIPSE!kskdELLIPSE!kkfbdle!kmkcvc!kkfbnbmn!oxkcSQUIGGLEf!kctifbkdkj&kbkdkj
%vfpq$ohtdf#fbpoSTEM%rkbkdkj(kbkdkj#tifbrk(bkdkj)kbkdkj#fuqX!WAVEflrDIRECTLYkk!qbgikcf!rwmgneikc
f!kcfirwvblyTO!kafuqky%pz!kcugf!kaugf!rwmgneikaf!kafirwvblyTO!mgneikcf!kcfivblyTO%rwmgne!kafirwm
gne!kokeZIGZAGf!pjrppuf#BACKSLANTEDqlf!ksluqw!kndqw!ksdqw!knmsPENTAGON!ksmsPENTAGON!lbnsle#OVALb
OVALtx#lebletx$#nbxe!rppufbHOOKED HEAD!BACKSLANTEDqlfbHOOKEDrk!rppufbkirk!BACKSLANTEDqlfbkirk!vu
flrkoTHENpuqp!pjvuflrkoTHENpuqp!kckef!lfkef!kakef!kokef!kkhkef!UPmvkef!purmkef#qpkef!qlqpkef#rmk
ef!kckexvf!lfkexvf!kakexvf!kokexvf!sskeotlef!ockeotlef!kckefTOpq!lfkefTOpq!kakefTOpq!kokefTOpq@2
B76!purmkefTOpq#qpkefTOpq!qlqpkefTOpq#rmkefTOpq!kckefbkbkikj!lfkefbkbkikj!kakefbkbkikj!kokefbkbk
ikj!kiTAB KEY!kdTAB KEY!kckefnmkakef!lfkefkcOFkokef!kakefnmkckef!kokefkcOFlfkef!kckePAIREDvc!lfk
ePAIREDvc!kakePAIREDvc!kokePAIREDvc!kcknnbksf!lfknnbksf!kaknnbksf!koknnbksf!ockehU-SHAPEDf$qnU-S
HAPEDf$kkU-SHAPEDf$TOP U-SHAPEDf!RETURNkk#h!NEWLINEkk#h!ljqovcCIRCLINGoc!kaknf@2B97!klFOR TYP
E A ELECTRONICS!THREE-D TOP-LIGHTEDkcnulc#RIGHT-LIGHTEDlfnulc#TOP-LIGHTEDkanulc#LEFT-LIGHTEDkonu
lc!knkcnulc#lfnulc#kanulc#konulc!kokefboxTIPkc)ka!lfkefboxTIPkc)ka!kckefboxTIPlf!kakefboxTIPlf!k
ckefboxTIPko!kakefboxTIPko!knCURVEDkokxkcf&kaf$lfkxkcf&kaf$kckxlff$kakxlff$kckxkof$kakxkof!RIBBO
Nfmvkk%h$UPkk%h$kkUP$hUP$kkmv$hmv!lfksfvfpqbkipq!UPlcIN A RECTANGLE BOX!OVERLAPPINGksSQUARES$kxk
nSQUARES#knSQUARES!BALLOT BOXbmbX!nbX#vxX!knldCENTRED#nyCENTRED!lwknPENTAGON!kiknOCTAGON!knOCTAG
ON#luqukwCENTRED$qrkwCENTRED$ntkwCENTRED$mskwCENTRED!NEPTUNEemd!TOPmrknle!qnmrknle!mbljopknCUSP!
mfmbljopknCUSP!ksljopCUSP!mfksljopCUSP!ldPOSITIONxm!UNCERTAINTYg!GROUPkz!PLUTOemd$km$lj$lo!TRANS
PLUTO!PROSERPINA!ASTRAEA!HYGIEA!PHOLUS!NESSUS!ksxdSELENA!knnyONqd!TRUEmbxdARTA!CUPIDO!HADES!ZEUS
!KRONOS!APOLLON!ADMETOS!VULCANUS!POSEIDON!kkmrknqw!hmrknqw!qwbkkmrkn$hmrkn!kctifbkwARROWHEADS!lf
tifbkwARROWHEADS!katifbkwARROWHEADS!kotifbkwARROWHEADS!ERISemi$md!SEDNA!RUSSIAN ASTROLOGICALklVI
GINTILE%NOVILE%QUINTILE%BINOVILE%SENTAGON%TREDECILE!qbgbINFINITYkg!UNITEDkl!SEPARATEDkl!DOUBLEDk
l!PASSEDkl!lghpe!HELLSCHREIBER PAUSEkl!GLAGOLITICcaAZU%BUKY%VEDE%GLAGOLI%DOBRO%YESTU%ZHIVETE%DZE
LO%ZEMLJA%IZHE%kfIZHE%I%DJERVI%KAKO%LJUDIJE%MYSLITE%NASHI%ONU%POKOJI%RITSI%SLOVO%TVRIDO%UKU%FRIT
U%HERU%OTU%PE%SHTA%TSI%CHRIVI%tt%YERU%YERI%YATI%SPIDERY HA%YU%dYUS(brk%YO%IOTATEDdYUS%BIG YUS%IO
TATED BIG YUS%FITA%IZHITSA%SHTAPIC%TROKUTASTI A%LATINATE MYSLITE%CAUDATE CHRIVI#daAZU%BUKY%VEDE%
GLAGOLI%DOBRO%YESTU%ZHIVETE%DZELO%ZEMLJA%IZHE%kfIZHE%I%DJERVI%KAKO%LJUDIJE%MYSLITE%NASHI%ONU%POK
OJI%RITSI%SLOVO%TVRIDO%UKU%FRITU%HERU%OTU%PE%SHTA%TSI%CHRIVI%tt%YERU%YERI%YATI%SPIDERY HA%YU%dYU
S(brk%YO%IOTATEDdYUS%BIG YUS%IOTATED BIG YUS%FITA%IZHITSA%SHTAPIC%TROKUTASTI A%LATINATE MYSLITE%
CAUDATE CHRIVI!picaLbkbpq#daLbkbpq#caLbkrmg%Pbkj%Rbrk#daAbkj%Tbnckj#caHbmw#daHbmw#caKbmw#daKbmw#
caZbmw#daZbmw#cary%Mbll%lwA&ry#daVbhll#caWbll#daWbll%Vbzq#camrH#damrH%TAILLESS PHI%EbNOTCH%lwRbr
k%Obsbnxtx#adclwE#SUBSCRIPTdaJ!onacV!picaSbSWASHrk%ZbSWASHrk!rzcaALFA#daALFA#caVIDA#daVIDA#cauw#
dauw#caDALDA#daDALDA#caEIE#daEIE#caSOU#daSOU#caZATA#daZATA#caHATE#daHATE#caTHETHE#daTHETHE#caIAU
DA#daIAUDA#caKAPA#daKAPA#caLAULA#daLAULA#caMI#daMI#caNI#daNI#caKSI#daKSI#caO#daO#caPI#daPI#caRO#
daRO#caSIMA#daSIMA#caTAU#daTAU#caUA#daUA#caFI#daFI#caKHI#daKHI#caPSI#daPSI#caOOU#daOOU#caxknr#da
xknr#cawqrzAIN#dawqrzAIN#casmEIE#dasmEIE#caxkKAPA#daxkKAPA#caxkNI#daxkNI#casmNI#dasmNI#cawqrzOOU
#dawqrzOOU#caSAMPI#daSAMPI#caveSHEI#daveSHEI#cawqrzSHEI#dawqrzSHEI#cawqrzESH#dawqrzESH#caAKHMIMI
C KHEI#daAKHMIMIC KHEI#caxkHORI#daxkHORI#cawqrzHORI#dawqrzHORI#cawqrzHA#dawqrzHA#caL-SHAPED HA#d
aL-SHAPED HA#cawqrzHEI#dawqrzHEI#cawqrzHAT#dawqrzHAT#cawqrzGANGIA#dawqrzGANGIA#cawqrzDJA#dawqrzD
JA#cawqrzSHIMA#dawqrzSHIMA#cawqNUBIAN SHIMA#dawqNUBIAN SHIMA#cawqNUBIAN NGI#dawqNUBIAN NGI#cawqN
UBIAN NYI#dawqNUBIAN NYI#cawqNUBIAN WAU#dawqNUBIAN WAU#klKAI$MI RO$PI RO$STAUROS$TAU RO$KHI RO$S
HIMA SIMA#casmSHEI#dasmSHEI#casmGANGIA#dasmGANGIA#naNIi$SPIRITUS ASPER%LENIS#caBOHAIRIC KHEI#daB
OHAIRIC KHEI@2CF9#wqNUBIANrtpr%DIRECTorkz%INDIRECTorkz%VERSE DIVIDER#rgmimr#rtpr#MORPHOLOGICAL D
IVIDER!GEORGIANdaAN%BAN%GAN%DON%EN%VIN%ZEN%TAN%IN%KAN%LAS%MAN%NAR%ON%PAR%ZHAR%RAE%SAN%TAR%UN%PHA
R%KHAR%GHAN%QAR%vv%CHIN%CAN%JIL%CIL%CHAR%XAN%JHAN%HAE%HE%HIE%WE%HAR%HOE@2D27%YN@2D2D%AEN@2D30!TI
FINAGHaYA$YAB$YABH$YAG$YAGHH$BERBER ACADEMY YAJ$YAJ$YAD$YADH$YADD$YADDH$YEY$YAF$YAK$TUAREG YAK$Y
AKHH$YAH$BERBER ACADEMY YAH$TUAREG YAH$YAHH$YAA$YAKH$TUAREG YAKH$YAQ$TUAREG YAQ$YI$YAZH$AHAGGA
R YAZH$TUAREG YAZH$YAL$YAM$YAN$TUAREG YAGN%YANG$YAP$YU$YAR$YARR$YAGH$TUAREG YAGH$AYER YAGH$YAS$Y
ASS$YASH$YAT$YATH$YACH$YATT$YAV$YAW$YAY$YAZ$TAWELLEMET YAZ$YAZZ$YE$YO@2D6F#onaLABIALIZATIONkz#oy
kz@2D7F#pgJOINER!ETHIOPICslLOA$MOA$ROA$SOA$SHOA$BOA$TOA$COA$NOA$NYOA$qfOA$ZOA$DOA$DDOA$JOA$THOA$
CHOA$PHOA$POA$GGWA$GGWI$GGWEE$GGWE@2DA0$SSA$SSU$SSI$SSAA$SSEE$SSE$SSO@2DA8$CCA$CCU$CCI$CCAA$CCEE
$CCE$CCO@2DB0$ZZA$ZZU$ZZI$ZZAA$ZZEE$ZZE$ZZO@2DB8$CCHA$CCHU$CCHI$CCHAA$CCHEE$CCHE$CCHO@2DC0$QYA$Q
YU$QYI$QYAA$QYEE$QYE$QYO@2DC8$KYA$KYU$KYI$KYAA$KYEE$KYE$KYO@2DD0$XYA$XYU$XYI$XYAA$XYEE$XYE$XYO@2
DD8$GYA$GYU$GYI$GYAA$GYEE$GYE$GYO@2DE0!natjaBE%VE%GHE%DE%ZHE%ZE%KA%EL%EM%EN%O%PE%ER%ES%TE%HA%TSE
%CHE%tt%SHCHA%FITA%ES-TE%A%IE%DJERV%MONOGRAPH UK%YAT%YU%skA%nqYUS%BIG YUS%skBIG YUS!hpexgMARKER$
poxgMARKER!kkxgkt!hxgkt!kkpoxgkt!hpoxgkt!rvINTERPOLATION MARKER#poINTERPOLATION MARKER!poTRANSPO
SITION MARKER!kkTRANSPOSITIONkt!hTRANSPOSITIONkt!rvld!kkrvOMISSIONkt!hrvOMISSIONkt!EDITORIAL COR
ONIS!PARAGRAPHOS!FORKED PARAGRAPHOS!lgFORKED PARAGRAPHOS!HYPODIASTOLE!poOBELOS!koANCORA!lfANCORA
!pomspe!kbufzf!lqINTERROBANG!PALM BRANCH!zfbla!mgbnxi!kksbPARAPHRASEkt!hsbPARAPHRASEkt!mgbmmi%kg
!kkkdpqbQUILL!hkdpqbQUILL!TOPkkmrkt#hmrkt!qnkkmrkt#hmrkt!kkydUkt!hydUkt!kkkblt!hkblt!mdnknmmimml
s!mimmnmmdnkls!oqljmmls!lommkz!lgorkz!kdmg!nxPOINT!WORDoykrmm!lwof!rvmm#of!lwtn!DAGGERbkkGUARD$h
GUARD!lwDAGGER!TOPmrqyg!TWO-EMtd!THREE-EMtd!STENOGRAPHICrtpr!kdplnk!WIGGLYkdqj!CAPITULUM!kbzf!lg
of!kbLOW-REVERSED-9nwkz!tdbkkUPTURN!kbSUSPENSIONkz!lqsbKAVYKA%bKAVYKAi!sbKAVYKA$bmm!kbSTACKEDof!
poqz!ohDAGGER!MEDIEVALof!PARAGRAPHUSkz!PUNCTUS ELEVATUSkz!CORNISH VERSE DIVIDER!qdPATTYbhCROSSBA
R%kkCROSSBAR!TIRONIANgcET!MEDIEVALnokz#orkz!kkldktbkj!hldktbkj!kkldktbkbkj!hldktbkbkj!TOPmrkklt$
hlt!qnmrkklt$hlt!ufzf@2E80!CJK RADICAL REPEAT$CLIFF$SECONDmi%md%km$vp$BOX$TABLE$KNIFEmi%md$DIVIN
ATION$SEAL$dmi%md$LAMEmi%md%km%lj$SNAKE$THREAD$SNOUTmi%md$stmi%md$vg$RAP@2E9B$CHOKE$SUN$xd$DEATH
$MOTHER$CIVILIAN$WATERmi%md$FIRE$PAWmi%md$SIMPLIFIEDmrTREE TRUNK$COW$DOG$JADE$BOLT OF CLOTH$EYE$
SPIRITmi%md$BAMBOO$SILK$pvSILK$NETmi%md%km%lj$MESH$SHEEP$RAM$EWE$wq$BRUSHmi%md$MEAT$MORTAR$GRASS
mi%md%km$TIGER$CLOTHES$rmmi%md$pvSEE$SIMPLIFIEDul$ul$pvSPEECH%uh$FOOT$pvCART$SIMPLIFIED WALK$WAL
Kmi%md$CITY$pvGOLD$oxmi%md$pvox%GATE$MOUNDmi%md$RAIN$BLUE$pvTANNED LEATHER%zw%WIND%FLY$EATmi%md%
km$pvEAT$HEAD$pvHORSE$BONE$GHOST$pvFISH%BIRD%SALT$SIMPLIFIED WHEAT%YELLOW$pvFROG$J-SIMPLIFIED EV
EN$pvEVEN$J-SIMPLIFIED TOOTH$pvTOOTH$J-SIMPLIFIED DRAGON$pvDRAGON$TURTLE$J-SIMPLIFIED TURTLE$pvT
URTLE@2F00!KANGXI RADICALmi$qj$mm$yx$SECOND$ll$md$LID$MAN$LEGS$ENTER$lh$mvBOX$COVER$ICE$TABLE$ot
BOX$KNIFE$POWER$WRAP$SPOON$hotBOX$HIDING ENCLOSURE$ta$DIVINATION$SEAL$CLIFF$PRIVATE$AGAIN$vn$ENC
LOSURE$EARTH$SCHOLAR$GO%SLOWLY$EVENING$BIG$WOMAN$CHILD$ROOF$INCH$d$LAME$CORPSE$SPROUT$zx$RIVER$W
ORK$ONESELF$TURBAN$DRY$pjTHREAD$poCLIFF$oxSTRIDE$mdHANDS$SHOOT$BOW$SNOUT$BRISTLE$STEP$st$HALBERD
$DOOR$vg$BRANCH$RAP$sd$DIPPER$AXE$ld$vt$SUN$SAY$xd$TREE$LACK$pr$DEATH$WEAPON$DOvt$COMPARE$FUR$CL
AN$STEAM$WATER$FIRE$CLAW$FATHER$kbX$mrTREE TRUNK$SLICE$FANG$COW$DOG$PROFOUND$JADE$MELON$TILE$SWE
ET$LIFE$USE$FIELD$BOLT OF CLOTH$SICKNESS$poTENT$ks$SKIN$zd$EYE$SPEAR$f$STONE$SPIRIT$TRACK$GRAIN$
CAVE$STAND$BAMBOO$RICE$SILK$JAR$NET$SHEEP$FEATHER$wq$kx$PLOW$EAR$BRUSH$MEAT$MINISTER$SELF$ARRIVE
$MORTAR$TONGUE$OPPOSE$BOAT$STOPPING$COLOR$GRASS$TIGER$INSECT$BLOOD$WALK ENCLOSURE$CLOTHES$rm$SEE
$ul$SPEECH$VALLEY$BEAN$PIG$BADGER$uh$RED$RUN$FOOT$BODY$CART$BITTER$MORNING$WALK$CITY$WINE$DISTIN
GUISH$VILLAGE$GOLD$ox$GATE$MOUND$SLAVE$pjTAILED BIRD$RAIN$BLUE$WRONG$ni$LEATHER$TANNED LEATHER$L
EEK$yf$zw$WIND$FLY$EAT$HEAD$FRAGRANT$HORSE$BONE$TALL$HAIR$FIGHT$SACRIFICIAL WINE$CAULDRON$GHOST$
FISH$BIRD$SALT$DEER$WHEAT$HEMP$YELLOW$MILLET$kn$EMBROIDERY$FROG$TRIPOD$DRUM$RAT$NOSE$EVEN$TOOTH$
DRAGON$TURTLE$FLUTE@2FF0!qkDESCRIPTIONvzkkTOh%iTOkg%kkTOkrkxh%iTOkrkxkg%rtSURROUND%SURROUNDvfi(k
g(kk(nhkk)h(mjkk%OVERLAID@3000#va#of#rtpr!DITTOkz!JAPANESE INDUSTRIAL STANDARDkl!qkwckz#CLOSINGk
z#ngok!kkpekt!hpekt!kkkbpekt!hkbpekt!kkqokt!hqokt!kkksqokt!hksqokt!kkknwfkt!hknwfkt!POSTALkz!GET
Akz!kkruuhkt!hruuhkt!kkkswfkt!hkswfkt!kkksruuhkt!hksruuhkt!kkksldkt!hksldkt!WAVEtd!lgkbPRIMEnwkz
!kbPRIMEnwkz!sbkbPRIMEnwkz!POSTALkzni!HANGZHOUysmi$md$km$lj$lo$pl$lk$lh$mz!qkLEVELpbkz#ycpbkz#DE
PARTINGpbkz#ENTERINGpbkz!HANGULmtmmpbkz#kbmmpbkz!WAVYtd!kdKANA REPEATkz%bVOICEDyfkz%kznhmr%bVOIC
EDyfkznhmr%kzmjmr!nbPOSTALkz!qkTELEGRAPHqjFEEDoykl!HANGZHOUysta$pc$sx!kdqkwckz!MASUkz!PART ALTER
NATIONkz!qkVARIATIONxm#mrFILLva@3041!HIRAGANAadA$A$dI$I$dU$U$dE$E$dO$O$KA$GA$KI$GI$KU$GU$KE$GE$K
O$GO$SA$ZA$SI$ZI$SU$ZU$SE$ZE$SO$ZO$TA$DA$TI$DI$dTU$TU$DU$TE$DE$TO$DO$NA$NI$NU$NE$NO$HA$BA$PA$HI$
BI$PI$HU$BU$PU$HE$BE$PE$HO$BO$PO$MA$MI$MU$ME$MO$dYA$YA$dYU$YU$dYO$YO$RA$RI$RU$RE$RO$dWA$WA$WI$WE
$WO$N$VU$dKA%KE@3099!navkVOICEDyfkz$SEMI-VOICEDyfkz!vkVOICEDyfkz#SEMI-VOICEDyfkz!HIRAGANAwckz#VO
ICEDwckz#qeYORI!vkkbzf!vjadA$A$dI$I$dU$U$dE$E$dO$O$KA$GA$KI$GI$KU$GU$KE$GE$KO$GO$SA$ZA$SI$ZI$SU$
ZU$SE$ZE$SO$ZO$TA$DA$TI$DI$dTU$TU$DU$TE$DE$TO$DO$NA$NI$NU$NE$NO$HA$BA$PA$HI$BI$PI$HU$BU$PU$HE$BE
$PE$HO$BO$PO$MA$MI$MU$ME$MO$dYA$YA$dYU$YU$dYO$YO$RA$RI$RU$RE$RO$dWA$WA$WI$WE$WO$N$VU$dKA%KE$VA$V
I$VE$VO#krmm!vkPROLONGEDyfkz!vjwckz#VOICEDwckz#qeKOTO@3105!BOPOMOFOaB$P$M$F$D$T$N$L$G$K$H$J$Q$X$
ZH$CH$SH$R$Z$C$S$A$O$E$EH$AI$EI$AU$OU$AN$EN$ANG$ENG$ER$I$U$IU$V$NG$GN$IH$Obmmi$NN@3131!HANGULaKI
YEOK$SSANGKIYEOK$KIYEOK-SIOS$NIEUN$NIEUN-CIEUC$NIEUN-HIEUH$TIKEUT$SSANGTIKEUT$RIEUL$RIEUL-KIYEOK
$RIEUL-MIEUM$RIEUL-PIEUP$RIEUL-SIOS$RIEUL-THIEUTH$RIEUL-PHIEUPH$RIEUL-HIEUH$MIEUM$PIEUP$SSANGPIE
UP$PIEUP-SIOS$SIOS$SSANGSIOS$IEUNG$CIEUC$SSANGCIEUC$CHIEUCH$KHIEUKH$THIEUTH$PHIEUPH$HIEUH$A$AE$Y
A$YAE$EO$E$YEO$YE$O$WA$WAE$OE$YO$U$WEO$WE$WI$YU$EU$YI$I#FILLER#aSSANGNIEUN$NIEUN-TIKEUT$NIEUN-SI
OS$NIEUN-PANSIOS$RIEUL-KIYEOK-SIOS$RIEUL-TIKEUT$RIEUL-PIEUP-SIOS$RIEUL-PANSIOS$RIEUL-YEORINHIEUH
$MIEUM-PIEUP$MIEUM-SIOS$MIEUM-PANSIOS$KAPYEOUNMIEUM$PIEUP-KIYEOK$PIEUP-TIKEUT$PIEUP-SIOS-KIYEOK$
PIEUP-SIOS-TIKEUT$PIEUP-CIEUC$PIEUP-THIEUTH$KAPYEOUNPIEUP$KAPYEOUNSSANGPIEUP$SIOS-KIYEOK$SIOS-NI
EUN$SIOS-TIKEUT$SIOS-PIEUP$SIOS-CIEUC$PANSIOS$SSANGIEUNG$YESIEUNG$YESIEUNG-SIOS$YESIEUNG-PANSIOS
$KAPYEOUNPHIEUPH$SSANGHIEUH$YEORINHIEUH$YO-YA$YO-YAE$YO-I$YU-YEO$YU-YE$YU-I$ARAEA$ARAEAE@3190!qk
ANNOTATION LINKINGkz$rwkz$mikz$mdkz$kmkz$ljkz$TOPkz$krkz$qnkz$FIRSTkz$SECONDkz$THIRDkz$FOURTHkz$
HEAVENkz$EARTHkz$MANkz!BOPOMOFOaBU$ZI$JI$GU$EE$ENN$OO$ONN$IR$ANN$INN$UNN$IM$NGG$AINN$AUNN$AM$OM$
ONG$INNN#khaP%T%K%H#aGH$LH$ZY#khaG#aGW$KW$OE$AH!CJKkjT$WG$XG$BXG$SW$HZZ$HZG$HP$HZWG$SZWG$HZT$HZZ
P$HPWG$HZW$HZZZ$N$H$S$P$SP$D$HZ$HG$SZ$SWZ$ST$SG$PD$PZ$TN$SZZ$SWG$HXWG$HZZZG$PG$Q@31F0!vjadKU%SI%
SU%TO%NU%HA%HI%HU%HE%HO%MU%RA%RI%RU%RE%RO!PARENTHESIZED HANGUL KIYEOK$NIEUN$TIKEUT$RIEUL$MIEUM$P
IEUP$SIOS$IEUNG$CIEUC$CHIEUCH$KHIEUKH$THIEUTH$PHIEUPH$HIEUH$KIYEOK A$NIEUN A$TIKEUT A$RIEUL A$MI
EUM A$PIEUP A$SIOS A$IEUNG A$CIEUC A$CHIEUCH A$KHIEUKH A$THIEUTH A$PHIEUPH A$HIEUH A$CIEUC U#KOR
EANvzOJEON%O HU@3220#IDEOGRAPHmi$md$km$lj$lo$pl$lk$lh$mz$ta$xd$FIRE$WATER$WOOD$METAL$EARTH$SUN$S
TOCK$HAVE$SOCIETY$NAME$SPECIAL$FINANCIAL$CONGRATULATION$LABOR$REPRESENT$CALL$STUDY$SUPERVISE$ENT
ERPRISE$RESOURCE$ALLIANCE$FESTIVAL$REST$SELF$REACH!nbIDEOGRAPHor$KINDERGARTEN$SCHOOL$KOTO#ngtaON
knld$pcONknld$sxONknld$wwONknld$saONknld$yeONknld$ovONknld$wbONknld!PARTNERSHIPg!nbngpcmi%md%km%
lj%lo%pl%lk%lh%mz$sx%mi%md%km%lj%lo#HANGUL KIYEOK$NIEUN$TIKEUT$RIEUL$MIEUM$PIEUP$SIOS$IEUNG$CIEU
C$CHIEUCH$KHIEUKH$THIEUTH$PHIEUPH$HIEUH$KIYEOK A$NIEUN A$TIKEUT A$RIEUL A$MIEUM A$PIEUP A$SIOS A
$IEUNG A$CIEUC A$CHIEUCH A$KHIEUKH A$THIEUTH A$PHIEUPH A$HIEUH A#KOREANvzCHAMKO%JUEUI#HANGUL IEU
NG U!KOREAN STANDARDkl!nbIDEOGRAPHmi$md$km$lj$lo$pl$lk$lh$mz$ta$xd$FIRE$WATER$WOOD$METAL$EARTH$S
UN$STOCK$HAVE$SOCIETY$NAME$SPECIAL$FINANCIAL$CONGRATULATION$LABOR$SECRET$MALE$FEMALE$SUITABLE$EX
CELLENT$PRINT$ATTENTION$ITEM$REST$COPY$CORRECT$pm$np$sb$kk$h$MEDICINE$RELIGION$STUDY$SUPERVISE$E
NTERPRISE$RESOURCE$ALLIANCE$NIGHT#ngsxpl%lk%lh%mz$ww%mi%md%km%lj%lo%pl%lk%lh%mz$sa!qkTELEGRAPHkl
FOR JANUARY&FEBRUARY&MARCH&APRIL&MAY&JUNE&JULY&AUGUST&SEPTEMBER&OCTOBER&NOVEMBER&DECEMBER!ldHG#E
RG#EV!LIMITED LIABILITYg!nbvjA$I$U$E$O$KA$KI$KU$KE$KO$SA$SI$SU$SE$SO$TA$TI$TU$TE$TO$NA$NI$NU$NE$
NO$HA$HI$HU$HE$HO$MA$MI$MU$ME$MO$YA$YU$YO$RA$RI$RU$RE$RO$WA$WI$WE$WO!ldERA NAME REIWA#APAATO#ARU
HUA#ANPEA#AARU#ININGU#INTI#UON#ESUKUUDO#EEKAA#ONSU#OOMU#KAIRI#KARATTO#KARORII#GARON#GANMA#GIGA#G
INII#KYURII#GIRUDAA#KIRO#KIROGURAMU#KIROMEETORU#KIROWATTO#GURAMU#GURAMUTON#KURUZEIRO#KUROONE#KEE
SU#KORUNA#KOOPO#SAIKURU#SANTIIMU#SIRINGU#SENTI#SENTO#DAASU#DESI#DORU#TON#NANO#NOTTO#HAITU#PAASEN
TO#PAATU#BAARERU#PIASUTORU#PIKURU#PIKO#BIRU#HUARADDO#HUIITO#BUSSYERU#HURAN#HEKUTAARU#PESO#PENIHI
#HERUTU#PENSU#PEEZI#BEETA#POINTO#BORUTO#HON#PONDO#HOORU#HOON#MAIKURO#MAIRU#MAHHA#MARUKU#MANSYON#
MIKURON#MIRI#MIRIBAARU#MEGA#MEGATON#MEETORU#YAADO#YAARU#YUAN#RITTORU#RIRA#RUPII#RUUBURU#REMU#REN
TOGEN#WATTO!qkTELEGRAPHklFOR HOURok(mi(md(km(lj(lo(pl(lk(lh(mz(ta(ze(wu(THIRTEEN(zv(xb(yw(xo(xx(
zz(pc(TWENTY-ONE(TWENTY-TWO(TWENTY-THREE(TWENTY-FOUR!ldHPA#DA#AU#pq#OV#PC#DM$oq$CUBED#IU#ERA NAM
E HEISEI%SYOUWA%TAISYOU%MEIZI#CORPORATION#PA AMPS#NA#MU A#MA#KA#KB#MB#GB#CAL#KCAL#PF#NF#MU F$G#M
G#KG#HZ#KHZ#MHZ#GHZ#THZ#MU L#ML#DL#KL#FM#NM#MU M#MM#CM#KM#MMoq#CMoq#Moq#KMoq#MM CUBED#CM CUBED#
M CUBED#KM CUBED#MnmS&oq#PA#KPA#MPA#GPA#RAD$nmS&oq#PS#NS#MU S#MS#PV#NV#MU V#MV#KV#MV MEGA#PW#NW#
MU W#MW#KW#MW MEGA#K OHM#M OHM#AM#BQ#CC#CD#CnmKG#CO#DB#GY#HA#HP#IN#KK#KMc#KT#LM#LN#LOG#LX#MBd#MI
L#MOL#PH#PM#PPM#PR#SR#SV#WB#VnmM#AnmM!qkTELEGRAPHklFOR DAYmi(md(km(lj(lo(pl(lk(lh(mz(ta(ze(wu(TH
IRTEEN(zv(xb(yw(xo(xx(zz(pc(TWENTY-ONE(TWENTY-TWO(TWENTY-THREE(TWENTY-FOUR(TWENTY-FIVE(TWENTY-SI
X(TWENTY-SEVEN(TWENTY-EIGHT(TWENTY-NINE(sx(THIRTY-ONE!ldGAL@4DC0!HEXAGRAM FOR THE CREATIVE HEAVE
N%RECEPTIVE EARTH$DIFFICULTY AT THE BEGINNING$YOUTHFUL FOLLY$WAITING$CONFLICT$THE ARMY$HOLDING T
OGETHER$dTAMING$TREADING$PEACE$STANDSTILL$FELLOWSHIP$GREAT POSSESSION$MODESTY$ENTHUSIASM$FOLLOWI
NG$WORK ON THE DECAYED$APPROACH$CONTEMPLATION$BITINGuq$GRACE$SPLITTING APART$RETURN$INNOCENCE$GR
EAT TAMING$vnCORNERS$GREAT PREPONDERANCE$THE ABYSMAL WATER%CLINGING FIRE$INFLUENCE$DURATION$RETR
EAT$GREAT POWER$PROGRESS$DARKENING OF THEmb$THE FAMILY$OPPOSITION$OBSTRUCTION$DELIVERANCE$DECREA
SE$INCREASE$BREAKTHROUGH$COMING TO MEET$GATHERING TOGETHER$PUSHING UPWARD$OPPRESSION$THE WELL$RE
VOLUTION$THE CAULDRON%AROUSING THUNDER%KEEPING STILLzx$DEVELOPMENT$THE MARRYING MAIDEN$ABUNDANCE
$THE WANDERER%GENTLE WIND%JOYOUS LAKE$DISPERSION$LIMITATION$INNER TRUTH$dPREPONDERANCE$AFTER COM
PLETION$BEFORE COMPLETION@A000!YIslIT$IX$I$IP$IET$IEX$IE$IEP$AT$AX$A$AP$UOX$UO$UOP$OT$OX$O$OP$EX
$E$WU$BIT$BIX$BI$BIP$BIET$BIEX$BIE$BIEP$BAT$BAX$BA$BAP$BUOX$BUO$BUOP$BOT$BOX$BO$BOP$BEX$BE$BEP$B
UT$BUX$BU$BUP$BURX$BUR$BYT$BYX$BY$BYP$BYRX$BYR$PIT$PIX$PI$PIP$PIEX$PIE$PIEP$PAT$PAX$PA$PAP$PUOX$
PUO$PUOP$POT$POX$PO$POP$PUT$PUX$PU$PUP$PURX$PUR$PYT$PYX$PY$PYP$PYRX$PYR$BBIT$BBIX$BBI$BBIP$BBIET
$BBIEX$BBIE$BBIEP$BBAT$BBAX$BBA$BBAP$BBUOX$BBUO$BBUOP$BBOT$BBOX$BBO$BBOP$BBEX$BBE$BBEP$BBUT$BBUX
$BBU$BBUP$BBURX$BBUR$BBYT$BBYX$BBY$BBYP$NBIT$NBIX$NBI$NBIP$NBIEX$NBIE$NBIEP$NBAT$NBAX$NBA$NBAP$N
BOT$NBOX$NBO$NBOP$NBUT$NBUX$NBU$NBUP$NBURX$NBUR$NBYT$NBYX$NBY$NBYP$NBYRX$NBYR$HMIT$HMIX$HMI$HMIP
$HMIEX$HMIE$HMIEP$HMAT$HMAX$HMA$HMAP$HMUOX$HMUO$HMUOP$HMOT$HMOX$HMO$HMOP$HMUT$HMUX$HMU$HMUP$HMUR
X$HMUR$HMYX$HMY$HMYP$HMYRX$HMYR$MIT$MIX$MI$MIP$MIEX$MIE$MIEP$MAT$MAX$MA$MAP$MUOT$MUOX$MUO$MUOP$M
OT$MOX$MO$MOP$MEX$ME$MUT$MUX$MU$MUP$MURX$MUR$MYT$MYX$MY$MYP$FIT$FIX$FI$FIP$FAT$FAX$FA$FAP$FOX$FO
$FOP$FUT$FUX$FU$FUP$FURX$FUR$FYT$FYX$FY$FYP$VIT$VIX$VI$VIP$VIET$VIEX$VIE$VIEP$VAT$VAX$VA$VAP$VOT
$VOX$VO$VOP$VEX$VEP$VUT$VUX$VU$VUP$VURX$VUR$VYT$VYX$VY$VYP$VYRX$VYR$DIT$DIX$DI$DIP$DIEX$DIE$DIEP
$DAT$DAX$DA$DAP$DUOX$DUO$mm$DOX$DO$DOP$DEX$DE$DEP$DUT$DUX$DU$DUP$DURX$DUR$TIT$TIX$TI$TIP$TIEX$TI
E$TIEP$TAT$TAX$TA$TAP$TUOT$TUOX$TUO$TUOP$TOT$TOX$TO$TOP$TEX$TE$TEP$TUT$TUX$TU$TUP$TURX$TUR$DDIT$
DDIX$DDI$DDIP$DDIEX$DDIE$DDIEP$DDAT$DDAX$xw$DDAP$DDUOX$DDUO$DDUOP$DDOT$DDOX$DDO$DDOP$DDEX$DDE$DD
EP$DDUT$DDUX$DDU$DDUP$DDURX$DDUR$NDIT$NDIX$NDI$NDIP$NDIEX$NDIE$NDAT$NDAX$NDA$NDAP$NDOT$NDOX$NDO$
NDOP$NDEX$NDE$NDEP$NDUT$NDUX$NDU$NDUP$NDURX$NDUR$HNIT$HNIX$HNI$HNIP$HNIET$HNIEX$HNIE$HNIEP$HNAT$
HNAX$HNA$HNAP$HNUOX$HNUO$HNOT$HNOX$HNOP$HNEX$HNE$HNEP$HNUT$NIT$NIX$NI$NIP$NIEX$NIE$NIEP$NAX$NA$N
AP$NUOX$NUO$NUOP$vt$NOX$NO$NOP$NEX$NE$NEP$NUT$NUX$NU$NUP$NURX$NUR$HLIT$HLIX$HLI$HLIP$HLIEX$HLIE$
HLIEP$HLAT$HLAX$HLA$HLAP$HLUOX$HLUO$HLUOP$HLOX$HLO$HLOP$HLEX$HLE$HLEP$HLUT$HLUX$HLU$HLUP$HLURX$H
LUR$HLYT$HLYX$HLY$HLYP$HLYRX$HLYR$LIT$LIX$LI$LIP$LIET$LIEX$LIE$LIEP$LAT$LAX$LA$LAP$LUOT$LUOX$LUO
$LUOP$LOT$LOX$LO$LOP$LEX$LE$LEP$LUT$LUX$LU$LUP$LURX$LUR$LYT$LYX$LY$LYP$LYRX$LYR$GIT$GIX$GI$GIP$G
IET$GIEX$GIE$GIEP$GAT$GAX$GA$GAP$GUOT$GUOX$GUO$GUOP$GOT$GOX$GO$GOP$GET$GEX$GE$GEP$GUT$GUX$GU$GUP
$GURX$GUR$KIT$KIX$KI$KIP$KIEX$KIE$KIEP$KAT$KAX$KA$KAP$KUOX$KUO$KUOP$KOT$KOX$KO$KOP$KET$KEX$KE$KE
P$KUT$KUX$KU$KUP$KURX$KUR$GGIT$GGIX$GGI$GGIEX$GGIE$GGIEP$GGAT$GGAX$GGA$GGAP$GGUOT$GGUOX$GGUO$GGU
OP$GGOT$GGOX$GGO$GGOP$GGET$GGEX$GGE$GGEP$GGUT$GGUX$GGU$GGUP$GGURX$GGUR$MGIEX$MGIE$MGAT$MGAX$MGA$
MGAP$MGUOX$MGUO$MGUOP$MGOT$MGOX$MGO$MGOP$MGEX$MGE$MGEP$MGUT$MGUX$MGU$MGUP$MGURX$MGUR$HXIT$HXIX$H
XI$HXIP$HXIET$HXIEX$HXIE$HXIEP$HXAT$HXAX$HXA$HXAP$HXUOT$HXUOX$HXUO$HXUOP$HXOT$HXOX$HXO$HXOP$HXEX
$HXE$HXEP$NGIEX$NGIE$NGIEP$NGAT$NGAX$ts$NGAP$NGUOT$NGUOX$NGUO$NGOT$NGOX$NGO$NGOP$NGEX$NGE$NGEP$H
IT$HIEX$HIE$HAT$HAX$HA$HAP$HUOT$HUOX$HUO$HUOP$HOT$HOX$HO$HOP$HEX$HE$HEP$WAT$WAX$WA$WAP$WUOX$WUO$
WUOP$WOX$WO$WOP$WEX$WE$WEP$ZIT$ZIX$ZI$ZIP$ZIEX$ZIE$ZIEP$ZAT$ZAX$ZA$ZAP$ZUOX$ZUO$ZUOP$ZOT$ZOX$ZO$
ZOP$ZEX$ZE$ZEP$ZUT$ZUX$ZU$ZUP$ZURX$ZUR$ZYT$ZYX$ZY$ZYP$ZYRX$ZYR$CIT$CIX$CI$CIP$CIET$CIEX$CIE$CIEP
$CAT$CAX$CA$CAP$CUOX$CUO$CUOP$COT$COX$CO$COP$CEX$CE$CEP$CUT$CUX$CU$CUP$CURX$CUR$CYT$CYX$CY$CYP$C
YRX$CYR$ZZIT$ZZIX$ZZI$ZZIP$ZZIET$ZZIEX$ZZIE$ZZIEP$ZZAT$ZZAX$ZZA$ZZAP$ZZOX$ZZO$ZZOP$ZZEX$ZZE$ZZEP
$ZZUX$ZZU$ZZUP$ZZURX$ZZUR$ZZYT$ZZYX$ZZY$ZZYP$ZZYRX$ZZYR$NZIT$NZIX$NZI$NZIP$NZIEX$NZIE$NZIEP$NZAT
$NZAX$NZA$NZAP$NZUOX$NZUO$NZOX$NZOP$NZEX$NZE$NZUX$NZU$NZUP$NZURX$NZUR$NZYT$NZYX$NZY$NZYP$NZYRX$N
ZYR$SIT$pl$SI$SIP$SIEX$SIE$SIEP$SAT$SAX$SA$SAP$SUOX$SUO$SUOP$SOT$SOX$SO$SOP$SEX$SE$SEP$SUT$SUX$S
U$SUP$SURX$SUR$SYT$SYX$SY$SYP$SYRX$SYR$SSIT$SSIX$SSI$SSIP$SSIEX$SSIE$SSIEP$SSAT$SSAX$SSA$SSAP$SS
OT$SSOX$SSO$SSOP$SSEX$SSE$SSEP$SSUT$SSUX$SSU$SSUP$SSYT$SSYX$SSY$SSYP$SSYRX$SSYR$ZHAT$ZHAX$ZHA$ZH
AP$ZHUOX$ZHUO$ZHUOP$ZHOT$ZHOX$ZHO$ZHOP$ZHET$ZHEX$ZHE$ZHEP$ZHUT$ZHUX$ZHU$ZHUP$ZHURX$ZHUR$ZHYT$ZHY
X$ZHY$ZHYP$ZHYRX$ZHYR$CHAT$CHAX$uk$CHAP$CHUOT$CHUOX$CHUO$CHUOP$CHOT$CHOX$CHO$CHOP$CHET$CHEX$CHE$
CHEP$CHUX$CHU$CHUP$CHURX$CHUR$CHYT$CHYX$CHY$CHYP$CHYRX$CHYR$RRAX$RRA$RRUOX$RRUO$RROT$RROX$RRO$RR
OP$RRET$RREX$RRE$RREP$RRUT$RRUX$RRU$RRUP$RRURX$RRUR$RRYT$RRYX$RRY$RRYP$RRYRX$RRYR$NRAT$NRAX$NRA$
NRAP$NROX$NRO$NROP$NRET$NREX$NRE$NREP$NRUT$NRUX$NRU$NRUP$NRURX$NRUR$NRYT$NRYX$NRY$NRYP$NRYRX$NRY
R$SHAT$SHAX$tt$SHAP$SHUOX$SHUO$SHUOP$SHOT$SHOX$SHO$SHOP$SHET$SHEX$SHE$SHEP$SHUT$SHUX$SHU$SHUP$SH
URX$SHUR$SHYT$SHYX$SHY$SHYP$SHYRX$SHYR$RAT$RAX$RA$RAP$RUOX$RUO$RUOP$ROT$ROX$RO$ROP$REX$RE$REP$RU
T$RUX$RU$RUP$RURX$RUR$RYT$RYX$RY$RYP$RYRX$RYR$JIT$JIX$JI$JIP$JIET$JIEX$JIE$JIEP$JUOT$JUOX$JUO$JU
OP$JOT$JOX$JO$JOP$JUT$JUX$JU$JUP$JURX$JUR$JYT$JYX$JY$JYP$JYRX$JYR$QIT$QIX$QI$QIP$QIET$QIEX$QIE$Q
IEP$QUOT$QUOX$QUO$QUOP$QOT$QOX$QO$QOP$QUT$QUX$QU$QUP$QURX$QUR$QYT$QYX$QY$QYP$QYRX$QYR$JJIT$JJIX$
JJI$JJIP$JJIET$JJIEX$JJIE$JJIEP$JJUOX$JJUO$JJUOP$JJOT$JJOX$JJO$JJOP$JJUT$JJUX$JJU$JJUP$JJURX$JJU
R$JJYT$JJYX$JJY$JJYP$NJIT$NJIX$NJI$NJIP$NJIET$NJIEX$NJIE$NJIEP$NJUOX$NJUO$NJOT$NJOX$NJO$NJOP$NJU
X$NJU$NJUP$NJURX$NJUR$NJYT$NJYX$NJY$NJYP$NJYRX$NJYR$NYIT$NYIX$NYI$NYIP$NYIET$NYIEX$NYIE$NYIEP$NY
UOX$NYUO$NYUOP$NYOT$NYOX$NYO$NYOP$NYUT$NYUX$NYU$NYUP$XIT$XIX$XI$XIP$XIET$XIEX$XIE$XIEP$XUOX$XUO$
XOT$XOX$XO$XOP$XYT$XYX$XY$XYP$XYRX$XYR$YIT$YIX$YI$YIP$YIET$YIEX$YIE$YIEP$YUOT$YUOX$YUO$YUOP$YOT$
YOX$YO$YOP$YUT$YUX$YU$YUP$YURX$YUR$YYT$YYX$YY$YYP$YYRX$YYR@A490#RADICAL QOT$LI$KIT$NYIP$CYP$SSI$
GGOP$GEP$MI$HXIT$LYR$BBUT$MOP$YO$PUT$HXUO$TAT$GA$ZUP$CYT$DDUR$BUR$GGUO$NYOP$TU$OP$JJUT$ZOT$PYT$H
MO$YIT$VUR$SHY$VEP$ZA$JO$NZUP$JJY$GOT$JJIE$WO$DU$SHUR$LIE$CY$CUOP$CIP$HXOP$SHAT$ZUR$SHOP$CHE$ZZI
ET$NBIE$KE@A4D0!LISUaBA$PA$wl$DA$TA$vs$GA$KA$uu$JA$CA$uk$DZA$TSA$TSHA$MA$NA$LA$SA$ZHA$ZA$ts$HA$X
A$HHA$FA$WA$tt$YA$yk$A$AE$E$EU$I$O$U$UE$UH$OE$pbMYA TI%NA PO%MYA CYA&BO&NA&JEU#lsof$rtpr!VAIslEE
$EEN$HEE$WEE$WEEN$PEE$BHEE$BEE$MBEE$KPEE$MGBEE$GBEE$FEE$VEE$TEE$THEE$DHEE$DHHEE$LEE$REE$DEE$NDEE
$SEE$SHEE$ZEE$ZHEE$CEE$JEE$NJEE$YEE$KEE$NGGEE$GEE$MEE$NEE$NYEE$I$IN$HI$HIN$WI$WIN$PI$BHI$BI$MBI$
KPI$MGBI$GBI$FI$VI$TI$THI$DHI$DHHI$LI$RI$DI$NDI$SI$SHI$ZI$ZHI$CI$JI$NJI$YI$KI$NGGI$GI$MI$NI$NYI$
A$AN$NGAN$HA$HAN$WA$WAN$PA$zm$BA$MBA$KPA$KPAN$MGBA$GBA$FA$VA$TA$vs$yj$DHHA$LA$RA$DA$NDA$SA$tt$ZA
$ZHA$CA$JA$NJA$YA$KA$KAN$NGGA$GA$MA$NA$up$OO$OON$HOO$WOO$WOON$POO$BHOO$BOO$MBOO$KPOO$MGBOO$GBOO$
FOO$VOO$TOO$THOO$DHOO$DHHOO$LOO$ROO$DOO$NDOO$SOO$SHOO$ZOO$ZHOO$COO$JOO$NJOO$YOO$KOO$NGGOO$GOO$MO
O$NOO$NYOO$U$UN$HU$HUN$WU$WUN$PU$BHU$BU$MBU$KPU$MGBU$GBU$FU$VU$TU$THU$DHU$DHHU$LU$RU$DU$NDU$SU$S
HU$ZU$ZHU$CU$JU$NJU$YU$KU$NGGU$GU$MU$NU$NYU$O$ON$NGON$HO$HON$WO$WON$PO$BHO$BO$MBO$KPO$MGBO$GBO$G
BON$FO$VO$TO$THO$DHO$DHHO$LO$RO$DO$NDO$SO$SHO$ZO$ZHO$CO$JO$NJO$YO$KO$NGGO$GO$MO$NO$NYO$E$EN$NGEN
$HE$HEN$WE$WEN$PE$BHE$BE$MBE$KPE$KPEN$MGBE$GBE$GBEN$FE$VE$TE$THE$DHE$DHHE$LE$RE$DE$NDE$SE$SHE$ZE
$ZHE$CE$JE$NJE$YE$KE$NGGE$NGGEN$GE$GEN$ME$NE$NYE$NG$LENGTHENER#of#rtpr#orkz#slNDOLE FA%KA%SOO#kl
FEENG$KEENG$TING$NII$BANG$FAA$TAA$DANG$DOONG$KUNG$TONG$DO-O$JONG#mhok$mi$md$km$lj$lo$pl$lk$lh$mz
#slNDOLE MA%DO@A640!tjcaZEMLYA#daZEMLYA#caDZELO#daDZELO#calgDZE#dalgDZE#cavi#davi#caDJERV#daDJER
V#caMONOGRAPH UK#daMONOGRAPH UK#caBROADrc#daBROADrc#caroYER#daroYER#caYERUbBACK YER#daYERUbBAC
K YER#caskYAT#daskYAT#calgYU#dalgYU#caskA#daskA#caqanqYUS#daqanqYUS#caBLENDED YUS#daBLENDED YUS#
caskqanqYUS#daskqanqYUS#caYN#daYN#calgTSE#dalgTSE#caSOFT DE#daSOFT DE#caSOFT EL#daSOFT EL#caSOF
T EM#daSOFT EM#caMONOCULAR O#daMONOCULAR O#caBINOCULAR O#daBINOCULAR O#cakbMONOCULAR O#dakbMONOC
ULAR O#aMULTIOCULAR O!natjVZMET$taMILLIONSg$kpMILLIONSg$kqMILLIONSg!SLAVONICmx!natjaUKRAINIAN IE
%I%YI%U%HARDg%YERU%SOFTg%rc$KAVYKA$PAYEROK!tjKAVYKA#PAYEROK#caDWE#daDWE#caDZWE#daDZWE#caZHWE#daZ
HWE#caCCHE#daCCHE#caDZZE#daDZZE#caTEbkrll#daTEbkrll#caTWE#daTWE#caTSWE#daTSWE#caTSSE#daTSSE#caTC
HE#daTCHE#caHWE#daHWE#caSHWE#daSHWE#cakbO#dakbO#caveO#daveO!onatjHARDg%SOFTg!natjaEF%skE!BAMUMaA
$KA$U$KU$EE$REE$TAE$O$NYI$I$LA$PA$RII$RIEE$LEEEE$MEEEE$TAA$NDAA$NJAEM$M$SUU$MU$SHII$SI$SHEUX$SEU
X$KYEE$KET$NUAE$NU$NJUAE$YOQ$SHU$YUQ$YA$NSHA$KEUX$PEUX$NJEE$NTEE$PUE$WUE$PEE$FEE$RU$LU$MI$NI$REU
X$RAE$KEN$NGKWAEN$NGGA$ts$SHO$PUAE$FU$FOM$WA$NA$LI$PI$LOQ$KO$MBEN$REN$MEN$MA$TI$KI$MO$MBAA$TET$K
PA$ta$NTUU$SAMBA$FAAMAE$KOVUU$KOGHOM#nakzKOQNDON%TUKWENTIS#NJAEMLI#rtpr#si#of#tn#orkz@A700!onaCH
INESEpbYIN PING&YANG PING&YIN SHANG&YANG SHANG&YIN QU&YANG QU&YIN RU&YANG RU$EXTRA-HIGHpopbpq$pm
popbpq$MIDpopbpq$sbpopbpq$EXTRA-LOWpopbpq$EXTRA-HIGHpouypbpq$pmpouypbpq$MIDpouypbpq$sbpouypbpq$E
XTRA-LOWpouypbpq$EXTRA-HIGHuypbpq$pmuypbpq$MIDuypbpq$sbuypbpq$EXTRA-LOWuypbpq$mmkdpq%yx%kipq$mjh
qope$rvUPf%mvf%nokz%lqnokz$sblqnokz$STRESSkxpmpb&sbpb!picaEGYPTOLOGICALnr#daEGYPTOLOGICALnr#caEG
YPTOLOGICAL AIN#daEGYPTOLOGICAL AIN#caHENG#daHENG#caTZ#daTZ#caTRESILLO#daTRESILLO#caCUATRILLO#da
CUATRILLO#caCUATRILLObof#daCUATRILLObof#adcF&S#caAA#daAA#caAO#daAO#caAU#daAU#caAV#daAV#caAVbkipq
#daAVbkipq#caAY#daAY#calgCbmm#dalgCbmm#caKbkj#daKbkj#caKbnckj#daKbnckj#caKbkjkxnckj#daKbkjkxnckj
#caBROKEN L#daBROKEN L#caLbpmkj#daLbpmkj#caOboxkjre#daOboxkjre#caObLOOP#daObLOOP#caOO#daOO#caPbk
juqmw#daPbkjuqmw#caPbFLOURISH#daPbFLOURISH#caPbSQUIRRELrk#daPbSQUIRRELrk#caQbkjuqmw#daQbkjuqmw#c
aQbnckj#daQbnckj#caR ROTUNDA#daR ROTUNDA#caRUM ROTUNDA#daRUM ROTUNDA#caVbnckj#daVbnckj#caVY#daVY
#caVISIGOTHIC Z#daVISIGOTHIC Z#caTHORNbkj#daTHORNbkj#caTHORNbkjuqmw#daTHORNbkjuqmw#caVEND#daVEND
#caET#daET#caIS#daIS#caCON#daCON!onaUS!pidaDUM%LUM%MUM%NUM%RUM#adcRUM#daTUM%UM#casqD#dasqD#casqF
#dasqF#casqG%lwsqG#dalwsqG#calwL#dalwL#casqR#dasqR#casqS#dasqS#casqT#dasqT!onasbkupk$si$pjqbg!pi
caSALTILLO#daSALTILLO#calwH#daLbmpllkxBELT#aSINOLOGICALmm#caNbmw#daNbmw#caCbpq#daCbpq(pxll%Hbpxl
l#caBbFLOURISH#daBbFLOURISH#caFbkj#daFbkj#caVOLAPUK AE#daVOLAPUK AE#caVOLAPUK OE#daVOLAPUK OE#ca
VOLAPUK UE#daVOLAPUK UE#caGbufkj#daGbufkj#caKbufkj#daKbufkj#caNbufkj#daNbufkj#caRbufkj#daRbufkj#
caSbufkj#daSbufkj#caHbll%lgotE%sdG%LbBELT%dcI#adcQ#calwK&T%Jbtc%CHI%BETA#daBETA#carc#darc#caUbkj
#daUbkj#caqfA#daqfA#caqfI#daqfI#caqfU#daqfU#cawqPOLISH O#dawqPOLISH O#caANGLICANA W#daANGLICAN
A W#caCbpxll%Sbll%Zbpxll%Dbpjkjre#daDbpjkjre#caSbpjkjre#daSbpjkjre@A7D0#caqasqG#daqasqG@A7D3%kbT
HORN@A7D5&WYNN#cakrSCOTS S#dakrSCOTS S#caSIGMOID S#daSIGMOID S@A7F2!onacC%F%Q!picalgmrH#dalgmrH#
EPIGRAPHICaydI!onacHbkj$dnzOE!piadclwM#EPIGRAPHICalgF&P%lqM%I LONGA%sgM!SYLOTI NAGRIaA%I$gDVISVA
RA$aU%E%O$gHASANTA$aKO%KHO%GO%GHO$gml$aCO%CHO%JO%JHO%TTO%TTHO%DDO%DDHO%TO%THO%DO%DHO%NO%PO%PHO%B
O%BHO%MO%RO%LO%RRO%SO%HO$mcgA&I&U&E&OO$POETRY MARK-1%MARK-2%MARK-3%MARK-4$gpfHASANTA@A830!puINDI
Crgmipa&mr%kmsw%miSIXTEENTH&rr%kmSIXTEENTHS$pakz$PLACEHOLDERkz$RUPEEkz$QUANTITYkz@A840!PHAGS-PAa
KA$uu$GA$ts$CA$uk$JA$up$TA$vs$DA$NA$PA$wl$BA$MA$TSA$TSHA$DZA$WA$ZHA$ZA$dA$YA$RA$LA$tt$SA$HA$A$I$
U$E$O$QA$XA$FA$GGA$EE#SUBJOINEDaWA%YA#axq$sy$xw$zi$pfYA$VOICELESStt$VOICED HA$ASPIRATED FA#SUBJO
INEDaRA#SUPERFIXEDaRA#amy#mtHEADkz#kbHEADkz#kzSHAD$kbSHAD@A880!SAURASHTRAgml$ol#aA$AA$I$II$U$UU$
moR%RR%L%LL$E$EE$AI$O$OO$AU$KA$uu$GA$yk$ts$CA$uk$JA$JHA$up$xq$sy$xw$tk$zi$TA$vs$DA$yj$NA$PA$wl$B
A$zm$MA$YA$RA$LA$VA$tt$SSA$SA$HA$LLA#pggHAARU#mcgAA%I%II%U%UU%moR&RR&L&LL%E%EE%AI%O%OO%AU#gpd$my
@A8CE#sp#kbsp#mhok$mi$md$km$lj$lo$pl$lk$lh$mz@A8E0!naDEVANAGARImhok%mi%md%km%lj%lo%pl%lk%lh%mz$a
A%U%KA%NA%PA%RA%VI$gsh!DEVANAGARIgSPACINGmy$mypd$kbmypd$mymd%km%sh$PUSHPIKA#GAP FILLER#CARET#HEA
DSTROKE#gSIDDHAM#JAIN OM#aAY#mcgAY!KAYAH LImhok%mi%md%km%lj%lo%pl%lk%lh%mz$aKA%uu%GA%ts%SA%tt%ZA
%up%TA%HTA%NA%PA%wl%MA%DA%BA%RA%YA%LA%WA%vs%HA%VA%CA%A%OE%I%OO$mcUE%E%U%EE%O$pbPLOPHU%CALYA&PLOP
HU$gCWI%SHYA!REJANGaKA$GA$ts$TA$DA$NA$PA$BA$MA$CA$JA$up$SA$RA$LA$YA$WA$HA$MBA$NGGA$NDA$NYJA$A#mc
gI%U%E%AI%O%AU%EU%EA#pggNG%N%R%H#pd@A95F#qykz!HANGUL CHOSEONG TIKEUT-MIEUM$TIKEUT-PIEUP$TIKEUT-S
IOS$TIKEUT-CIEUC$RIEUL-KIYEOK$RIEUL-SSANGKIYEOK$RIEUL-TIKEUT$RIEUL-SSANGTIKEUT$RIEUL-MIEUM$RIEUL
-PIEUP$RIEUL-SSANGPIEUP$RIEUL-KAPYEOUNPIEUP$RIEUL-SIOS$RIEUL-CIEUC$RIEUL-KHIEUKH$MIEUM-KIYEOK$MI
EUM-TIKEUT$MIEUM-SIOS$PIEUP-SIOS-THIEUTH$PIEUP-KHIEUKH$PIEUP-HIEUH$SSANGSIOS-PIEUP$IEUNG-RIEUL$I
EUNG-HIEUH$SSANGCIEUC-HIEUH$SSANGTHIEUTH$PHIEUPH-HIEUH$HIEUH-SIOS$SSANGYEORINHIEUH@A980!JAVANESE
gPANYANGGA$CECAK$LAYAR$WIGNYAN#aA$I KAWI%$II$U$PA CEREK$tsLELET&RASWADI$E$AI$O$KA%SASAK%MURDA$GA
%MURDA$ts$CA%MURDA$JA$upMURDA$JAxn$up$xq%xn$xw%xn$NA MURDA$TA%MURDA$DA%xn$NA$PA%MURDA$BA%MURDA$M
A$YA$RA%AGUNG$LA$WA$SA MURDA%xn%$HA#gCECAK TELU#mcgTARUNG%TOLONG%WULU&MELIK%SUKU&MENDUT%TALING%D
IRGA MURE%PEPET#pggKERET%PENGKAL%CAKRA#PANGKON#kkRERENGGAN#hRERENGGAN#PADA ANDAP$MADYA$LUHUR$WIN
DU$PANGKAT$LINGSA$LUNGSI$ADEG%ADEG$PISELEH#lwPADA PISELEH@A9CF#PANGRANGKEP#mhok$mi$md$km$lj$lo$p
l$lk$lh$mz@A9DE#PADA TIRTA TUMETES$ISEN-ISEN!MYANMARaSHANyk%uk%JHA%zi%zm#gSHAN SAW#onaSHAN REDUP
LICATION#aTAI LAINGup&FA&GA&yk&JA&JHA&xw&tk&zi#TAI LAINGmhok&mi&md&km&lj&lo&pl&lk&lh&mz#aTAI LAI
NG LLA&DA&yj&BA&zm@AA00!CHAMaA$I$U$E$AI$O$KA$uu$GA$yk$NGUE$ts$uk$CHHA$JA$JHA$NHUE$NHA$NHJA$TA$vs
$DA$yj$NUE$NA$xw$PA$PPA$wl$BA$zm$MUE$MA$BBA$YA$RA$LA$VA$SSA$SA$HA#mcgAA%I%II%EI%U%OE%O%AI%AU%UE#
pggYA%RA%LA%WA@AA40#akhK%G%NG#pggkhNG#akhCH%T%N%P%Y%R%L%SS#pggkhM&H@AA50#mhok$mi$md$km$lj$lo$pl$
lk$lh$mz@AA5C#lsSPIRAL$sp$kbsp$ohsp!MYANMARaKHAMTI GA%CA%uk%JA%JHA%up%xq%sy%xw%tk%yj%NA%SA%HA%HH
A%FA#onaKHAMTI REDUPLICATION#aKHAMTI XA%ZA%RA#LOGOGRAM KHAMTI OAY%QN%HM#klAITONno%mi%md#aAITON R
A#gPAO KARENpb$TAI LAING TONE-2&TONE-5#aSHWE PALAUNGuk&tt!TAI VIETasbKO%pmKO%sbKHO%pmKHO%sbKHHO%
pmKHHO%sbGO%pmGO%sbNGO%pmNGO%sbCO%pmCO%sbCHO%pmCHO%sbSO%pmSO%sbNYO%pmNYO%sbDO%pmDO%sbTO%pmTO%sbT
HO%pmTHO%sbNO%pmNO%sbBO%pmBO%sbPO%pmPO%sbPHO%pmPHO%sbFO%pmFO%sbMO%pmMO%sbYO%pmYO%sbRO%pmRO%sbLO%
pmLO%sbVO%pmVO%sbHO%pmHO%sbO%pmO$MAI KANG$mcAA%I%UE%U%E%O$MAI KHIT$mcIA%UEA%UA%AUE%AY%AN%AM$pbMA
I EK&NUENG&THO&SONG@AADB$klKON%NUENG%SAM%HO HOI%KOI KOI!MEETEI MAYEKaE%O%uk%up%xq%sy%xw%tk%zi%tt
%SSA$mcgII&UU&AAI&AU&AAU$CHEIKHAN$AHANG KHUDAM$ANJI$slREPETITIONkz$WORD REPETITIONkz$mcgol$pd@AB
01!ETHIOPICslTTHU$TTHI$TTHAA$TTHEE$TTHE$TTHO@AB09$DDHU$DDHI$DDHAA$DDHEE$DDHE$DDHO@AB11$DZU$DZI$D
ZAA$DZEE$DZE$DZO@AB20$CCHHA$CCHHU$CCHHI$CCHHAA$CCHHEE$CCHHE$CCHHO@AB28$BBA$BBU$BBI$BBAA$BBEE$BBE
$BBO@AB30!pidaBARREDry%A REVERSED-SCHWA%BLACKLETTER E%BARRED E%EbFLOURISH%LENIS F%sdGbtc%LblqLAZ
Y S(kbkrmg(krnx%Mbtc%Nbtc%ENGbtc%BLACKLETTER O(bkj%otObkj%lqOE%lwOEbkj)kikj&O OPEN-O)bkj%STIRRU
P R#adcRbhLEG#daR WITHOUT HANDLE%kbR%Rbtc%kbRbtc%sdR(bnx%BASELINE ESH%UbpjhLEG&pqbpjhLEG%UI%lwUI
%Ubkkll%CHI&bsbhnx)kkSERIF%Xbsbhnx(oxkkLEG+kxsbhnx+bSERIF%YbpjhLEG!onoublqou#adHENG%LblqLAZY S(k
rmg%Ubkkll!pidaSAKHA YAT%skE%otOE%UO%lqry!twadcrc!pidaDZqebmpll%TSqebmpll%lwRbkrmg!onadlwW$kkun$
hun@AB70!CHEROKEEdaA%E%I%O%U%V%GA%KA%GE%GI%GO%GU%GV%HA%HE%HI%HO%HU%HV%LA%LE%LI%LO%LU%LV%MA%ME%MI
%MO%MU%NA%HNA%NAH%NE%NI%NO%NU%NV%QUA%QUE%QUI%QUO%QUU%QUV%SA%S%SE%SI%SO%SU%SV%DA%TA%DE%TE%DI%TI%D
O%DU%DV%DLA%TLA%TLE%TLI%TLO%TLU%TLV%TSA%TSE%TSI%TSO%TSU%TSV%WA%WE%WI%WO%WU%WV%YA!MEETEI MAYEKaKO
K%SAM%LAI%MIT%PA%NA%CHIL%TIL%KHOU%NGOU%THOU%WAI%YANG%HUK%UN%I%PHAM%ATIYA%GOK%JHAM%RAI%BA%JIL%DIL
%GHOU%DHOU%BHAM%KOK LONSUM%LAI LONSUM%MIT LONSUM%PA LONSUM%NA LONSUM%TIL LONSUM%NGOU LONSUM%I LO
NSUM$mcgONAP&INAP&ANAP&YENAP&SOUNAP&UNAP&CHEINAP&NUNG$CHEIKHEI$LUM IYEK$APUN IYEK@ABF0$mhok%mi%m
d%km%lj%lo%pl%lk%lh%mz@D7B0!HANGUL JUNGSEONG O-YEO$O-O-I$YO-A$YO-AE$YO-EO$U-YEO$U-I-I$YU-AE$YU-O
$EU-A$EU-EO$EU-E$EU-O$I-YA-O$I-YAE$I-YEO$I-YE$I-O-I$I-YO$I-YU$I-I$ARAEA-A$ARAEA-E@D7CB#JONGSEON
G NIEUN-RIEUL$NIEUN-CHIEUCH$SSANGTIKEUT$SSANGTIKEUT-PIEUP$TIKEUT-PIEUP$TIKEUT-SIOS$TIKEUT-SIOS-K
IYEOK$TIKEUT-CIEUC$TIKEUT-CHIEUCH$TIKEUT-THIEUTH$RIEUL-SSANGKIYEOK$RIEUL-KIYEOK-HIEUH$SSANGRIEUL
-KHIEUKH$RIEUL-MIEUM-HIEUH$RIEUL-PIEUP-TIKEUT$RIEUL-PIEUP-PHIEUPH$RIEUL-YESIEUNG$RIEUL-YEORINHIE
UH-HIEUH$KAPYEOUNRIEUL$MIEUM-NIEUN$MIEUM-SSANGNIEUN$SSANGMIEUM$MIEUM-PIEUP-SIOS$MIEUM-CIEUC$PIEU
P-TIKEUT$PIEUP-RIEUL-PHIEUPH$PIEUP-MIEUM$SSANGPIEUP$PIEUP-SIOS-TIKEUT$PIEUP-CIEUC$PIEUP-CHIEUCH$
SIOS-MIEUM$SIOS-KAPYEOUNPIEUP$SSANGSIOS-KIYEOK$SSANGSIOS-TIKEUT$SIOS-PANSIOS$SIOS-CIEUC$SIOS-CHI
EUCH$SIOS-THIEUTH$SIOS-HIEUH$PANSIOS-PIEUP$PANSIOS-KAPYEOUNPIEUP$YESIEUNG-MIEUM$YESIEUNG-HIEUH$C
IEUC-PIEUP$CIEUC-SSANGPIEUP$SSANGCIEUC$PHIEUPH-SIOS$PHIEUPH-THIEUTH@FB00!pidnzFF%FI%FL%FFI%FFL%o
xS T%ST@FB13!ARMENIANdnzMEN NOW&ECH&INI%VEW NOW%MEN XEH@FB1D!HEBREWaYODbHIRIQ#POINT JUDEO-SPANIS
H VARIKA#nzYIDDISH YOD YOD PATAH#aALTERNATIVE AYIN$WIDEnr%DALET%HE%KAF%LAMED%khMEM%RESH%TAV$ALTE
RNATIVEmng$vvbvvmm&SINmm&snkxvvmm)SINmm$nrbPATAH&QAMATS&MAPIQ$BETbsn$yobsn$DALETbsn$HEbMAPIQ$VAV
bsn$ZAYINbsn@FB38$TETbsn$YODbsn$khKAFbsn$KAFbsn$LAMEDbsn@FB3E$MEMbsn@FB40$ylbsn$vrbsn@FB43$khPEb
sn$PEbsn@FB46$TSADIbsn$QOFbsn$RESHbsn$vvbsn$TAVbsn$VAVbHOLAM$BETbRAFE$KAFbRAFE$PEbRAFE#nznrLAMED
!tvanrWASLAje&khe$BEEHje%khe%kfe%lve$PEHje%khe%kfe%lve$BEHEHje%khe%kfe%lve$TTEHEHje%khe%kfe%lve$
TEHEHje%khe%kfe%lve$TTEHje%khe%kfe%lve$VEHje%khe%kfe%lve$PEHEHje%khe%kfe%lve$DYEHje%khe%kfe%lve$
NYEHje%khe%kfe%lve$TCHEHje%khe%kfe%lve$TCHEHEHje%khe%kfe%lve$DDAHALje%khe$DAHALje%khe$DULje%khe$
DDALje%khe$JEHje%khe$RREHje%khe$KEHEHje%khe%kfe%lve$GAFje%khe%kfe%lve$GUEHje%khe%kfe%lve$NGOEHje
%khe%kfe%lve$tpGHUNNAje&khe$RNOONje%khe%kfe%lve$HEHbqvije)khe%GOALje&khe&kfe&lve%DOACHASHMEEje&k
he&kfe&lve$qvBARREEje&khe&brnije*khe#klmmi%kg$mdnki&kg$kmnki&kg&lrkoi)kg$ljnki&kg$kbkdpqkg$mdnky
ii(kg$nx$dTAHi&kg$WASLAi@FBD3#aNGje%khe%kfe%lve$Uje%khe$OEje%khe$YUje%khe$Ubrnije$VEje%khe$KIRGH
IZ OEje&khe%YUje&khe$Eje%khe%kfe%lve$UIGHUR KAZAKH KIRGHIZnrlzkfe*lve#nzqvbrnibnrje+khe*AEje+khe
*WAWje+khe*Uje+khe*OEje+khe*YUje+khe*Eje+khe+kfe$UIGHUR KIRGHIZqvbrnibnrlzje:khe:kfe#aFARSIqvje&
khe&kfe&lve#nzqvbrnibowje*sjje*mkje*nrlzje*qvje$BEHbowje&sjje&rlje&mkje&nrlzje&qvje$TEHbowje&sjj
e&rlje&mkje&nrlzje&qvje$THEHbowje&mkje&nrlzje&qvje$owbsjje&mkje$sjbowje&mkje$rlbowje&sjje&mkje$w
sbowje&sjje&rlje&mkje$SADbsjje&mkje$DADbowje&sjje&rlje&mkje$TAHbsjje&mkje$ZAHbmkje$AINbowje&mkje
$xzbowje&mkje$FEHbowje&sjje&rlje&mkje&nrlzje&qvje$QAFbsjje&mkje&nrlzje&qvje$KAFbnrje&owje&sjje&r
lje&LAMje&mkje&nrlzje&qvje$LAMbowje&sjje&rlje&mkje&nrlzje&qvje$mkbowje&sjje&rlje&mkje&nrlzje&qvj
e$tpbowje&sjje&rlje&mkje&nrlzje&qvje$HEHbowje&mkje&nrlzje&qvje$qvbowje&sjje&rlje&mkje&nrlzje&qvj
e$THALbrjnrje$REHbrjnrje$nrlzbrjnrje$SHADDAbDAMMATANje&KASRATANje&FATHAje&DAMMAje&KASRAje&rjnrje
$qvbrnibREHkhe*ZAINkhe*mkkhe*tpkhe*nrlzkhe*qvkhe$BEHbREHkhe&ZAINkhe&mkkhe&tpkhe&nrlzkhe&qvkhe$TE
HbREHkhe&ZAINkhe&mkkhe&tpkhe&nrlzkhe&qvkhe$THEHbREHkhe&ZAINkhe&mkkhe&tpkhe&nrlzkhe&qvkhe$FEHbnrl
zkhe&qvkhe$QAFbnrlzkhe&qvkhe$KAFbnrkhe&LAMkhe&mkkhe&nrlzkhe&qvkhe$LAMbmkkhe&nrlzkhe&qvkhe$mkbnrk
he&mkkhe$tpbREHkhe&ZAINkhe&mkkhe&tpkhe&nrlzkhe&qvkhe$nrlzbrjnrkhe$qvbREHkhe&ZAINkhe&mkkhe&tpkhe&
nrlzkhe&qvkhe&rnibowkfe*sjkfe*rlkfe*mkkfe*HEHkfe$BEHbowkfe&sjkfe&rlkfe&mkkfe&HEHkfe$TEHbowkfe&sj
kfe&rlkfe&mkkfe&HEHkfe$THEHbmkkfe$owbsjkfe&mkkfe$sjbowkfe&mkkfe$rlbowkfe&mkkfe$wsbowkfe&sjkfe&rl
kfe&mkkfe$SADbsjkfe&rlkfe&mkkfe$DADbowkfe&sjkfe&rlkfe&mkkfe$TAHbsjkfe$ZAHbmkkfe$AINbowkfe&mkkfe$
xzbowkfe&mkkfe$FEHbowkfe&sjkfe&rlkfe&mkkfe$QAFbsjkfe&mkkfe$KAFbowkfe&sjkfe&rlkfe&LAMkfe&mkkfe$LA
Mbowkfe&sjkfe&rlkfe&mkkfe&HEHkfe$mkbowkfe&sjkfe&rlkfe&mkkfe$tpbowkfe&sjkfe&rlkfe&mkkfe&HEHkfe$HE
Hbowkfe&mkkfe&rjnrkfe$qvbowkfe&sjkfe&rlkfe&mkkfe&HEHkfe&rnibmklve*HEHlve$BEHbmklve&HEHlve$TEHbmk
lve&HEHlve$THEHbmklve&HEHlve$wsbmklve&HEHlve$wmbmklve&HEHlve$KAFbLAMlve&mklve$LAMbmklve$tpbmklve
&HEHlve$qvbmklve&HEHlve$SHADDAbFATHAlve&DAMMAlve&KASRAlve$TAHbnrlzje&qvje$AINbnrlzje&qvje$xzbnrl
zje&qvje$wsbnrlzje&qvje$wmbnrlzje&qvje$sjbnrlzje&qvje$owbnrlzje&qvje$rlbnrlzje&qvje$SADbnrlzje&q
vje$DADbnrlzje&qvje$wmbowje&sjje&rlje&mkje&REHje$wsbREHje$SADbREHje$DADbREHje$TAHbnrlzkhe&qvkhe$
AINbnrlzkhe&qvkhe$xzbnrlzkhe&qvkhe$wsbnrlzkhe&qvkhe$wmbnrlzkhe&qvkhe$sjbnrlzkhe&qvkhe$owbnrlzkhe
&qvkhe$rlbnrlzkhe&qvkhe$SADbnrlzkhe&qvkhe$DADbnrlzkhe&qvkhe$wmbowkhe&sjkhe&rlkhe&mkkhe&REHkhe$ws
bREHkhe$SADbREHkhe$DADbREHkhe$wmbowkfe&sjkfe&rlkfe&mkkfe$wsbHEHkfe$wmbHEHkfe$TAHbmkkfe$wsbowlve&
sjlve&rllve$wmbowlve&sjlve&rllve$TAHbmklve$ZAHbmklve$nrbFATHATANkhe(je!ORNATEkklt#hlt!tvnzRAHIMA
HU ALLAAH$RADI ALLAAHU ANH&ANHAA&ANHUM&ANHUMAA&ANHUNNA$SALLALLAAHU ALAYHI WA-AALIH$ALAYHI AS-SAL
AAM$ALAYHIM AS-SALAAM$ALAYHIMAA AS-SALAAM$ALAYHI AS-SALAATU WAS-SALAAM$QUDDISA SIRRAH$SALLALLAH
U ALAYHI WAAALIHEE WA-SALLAM$ALAYHAA AS-SALAAM$TABAARAKA WA-TAAALAA$RAHIMAHUM ALLAAH$TEHbowbmkkf
e&sjbowkhe*kfe)mkkfe&rlbmkkfe&mkbowkfe)sjkfe)rlkfe$owbmkbsjkhe*kfe$sjbmkbqvkhe)nrlzkhe$wsbsjbowk
fe&owbsjkfe)nrlzkhe&mkbsjkhe*kfe)owkfe)mkkhe*kfe$SADbsjbsjkhe*kfe&mkbmkkhe$wmbsjbmkkhe*kfe&owbqv
khe&mkbrlkhe*kfe)mkkhe*kfe$DADbsjbnrlzkhe&rlbmkkhe*kfe$TAHbmkbsjkhe*kfe)mkkfe)qvkhe$AINbowbmkkhe
&mkbmkkhe*kfe)nrlzkhe$xzbmkbmkkhe)qvkhe)nrlzkhe$FEHbrlbmkkhe*kfe$QAFbmkbsjkhe)mkkhe$LAMbsjbmkkhe
)qvkhe)nrlzkhe&owbowkfe*khe&rlbmkkhe*kfe&mkbsjkhe*kfe$mkbsjbowkfe)mkkfe)qvkhe&owbsjkfe)mkkfe&rlb
owkfe)mkkfe@FD92&owbrlkfe$HEHbmkbowkfe)mkkfe$tpbsjbmkkfe)nrlzkhe&owbmkkhe*kfe)nrlzkhe&mkbqvkhe)n
rlzkhe$qvbmkbmkkhe*kfe$BEHbrlbqvkhe$TEHbowbqvkhe)nrlzkhe&rlbqvkhe)nrlzkhe&mkbqvkhe)nrlzkhe$owbmk
bqvkhe&sjbnrlzkhe&mkbnrlzkhe$wsbrlbnrlzkhe$SADbsjbqvkhe$wmbsjbqvkhe$DADbsjbqvkhe$LAMbowbqvkhe&mk
bqvkhe$qvbsjbqvkhe&owbqvkhe&mkbqvkhe$mkbmkbqvkhe$QAFbmkbqvkhe$tpbsjbqvkhe$QAFbmkbsjkfe$LAMbsjbmk
kfe$AINbmkbqvkhe$KAFbmkbqvkhe$tpbowbsjkfe$mkbrlbqvkhe$LAMbowbmkkfe$KAFbmkbmkkhe$LAMbowbmkkhe$tpb
owbsjkhe$owbsjbqvkhe$sjbowbqvkhe$mkbowbqvkhe$FEHbmkbqvkhe$BEHbsjbqvkhe$KAFbmkbmkkfe$AINbowbmkkfe
$SADbmkbmkkfe$wsbrlbqvkhe$tpbowbqvkhe@FDCF$SALAAMUHU ALAYNAA@FDF0$SALLA USED AS KORANICprgje$QAL
A USED AS KORANICprgje$ALLAHje$AKBARje$MOHAMMADje$SALAMje$RASOULje$ALAYHEje$WASALLAMje$SALLAje$S
ALLALLAHOU ALAYHE WASALLAM$JALLAJALALOUHOU!RIALg!tvnzBISMILLAH AR-RAHMAN AR-RAHEEM$SUBHAANAHU W
A TAAALAA$AZZA WA JALL!VARIATION SELECTOR-1#SELECTOR-2#SELECTOR-3#SELECTOR-4#SELECTOR-5#SELECTOR
-6#SELECTOR-7#SELECTOR-8#SELECTOR-9#SELECTOR-10#SELECTOR-11#SELECTOR-12#SELECTOR-13#SELECTOR-14#
SELECTOR-15#SELECTOR-16!PRESENTATIONeFORkdof&qkof(rtpr&si&tn&nokz&orkz&kkkswfkt&hkswfBRAKCET&kiz
t@FE20!nanzkkmr$hmr#kbmgkkmr%hmr#nfkkmr$hmr#CONJOININGnf#nzkkmrkg$hmrkg#mgkkmrkg$hmrkg#nfkkmrkg$
hmrkg#CONJOININGnfkg#tjTITLOkkmr%hmr!PRESENTATIONeFORkdmdmmLEADER&EMtd&ENtd&sbqj&WAVYsbqj&kklt&h
lt&kktqkt&htqkt&kkruuhkt&hruuhkt&kkknwfkt&hknwfkt&kkkbpekt&hkbpekt&kkpekt&hpekt&kkqokt&hqokt&kkk
sqokt&hksqokt!SESAMEmm!ksSESAMEmm!PRESENTATIONeFORkdkkldkt&hldkt!xvOVERLINE!CENTRELINE OVERLINE!
WAVY OVERLINE!kbWAVY OVERLINE!xvsbqj!CENTRELINEsbqj!WAVYsbqj!dof#qkof#rtpr@FE54#tn#si#orkz#nokz#
EMtd#kklt#hlt#kktqkt#htqkt#kkruuhkt#hruuhkt#ngg#xi#mx#mng#HYPHEN-MINUS#lmg#kyg#qbg@FE68#rwqz#DOL
LARg#PERCENTg#COMMERCIAL AT@FE70!tvFATHATANje#TATWEELbFATHATANi#DAMMATANje#rkFRAGMENT#KASRATANje
@FE76#FATHAje$lve#DAMMAje$lve#KASRAje$lve#SHADDAje$lve#SUKUNje$lve#arnje$nrbMADDAije)khe&rnije)k
he$WAWbrnije)khe$nrbrnkgje)khe$qvbrnije)khe)kfe)lve$nrje%khe$BEHje%khe%kfe%lve$TEH MARBUTAje&khe
%je%khe%kfe%lve$THEHje%khe%kfe%lve$owje%khe%kfe%lve$sjje%khe%kfe%lve$rlje%khe%kfe%lve$DALje%khe$
THALje%khe$REHje%khe$ZAINje%khe$wsje%khe%kfe%lve$wmje%khe%kfe%lve$SADje%khe%kfe%lve$DADje%khe%kf
e%lve$TAHje%khe%kfe%lve$ZAHje%khe%kfe%lve$AINje%khe%kfe%lve$xzje%khe%kfe%lve$FEHje%khe%kfe%lve$Q
AFje%khe%kfe%lve$KAFje%khe%kfe%lve$LAMje%khe%kfe%lve$mkje%khe%kfe%lve$tpje%khe%kfe%lve$HEHje%khe
%kfe%lve$WAWje%khe$nrlzje&khe$qvje%khe%kfe%lve#nzLAMbnrbMADDAije+khe)rnije+khe*kgje+khe(je(khe@F
EFF!okWIDTH NO-BREAKva@FF01!FULLWIDTHnokz#nwkz#ngg#DOLLARg#PERCENTg#xi#ur#kklt#hlt#mx#mng#of#HYP
HEN-MINUS#rtpr#qz#mhok$mi$md$km$lj$lo$pl$lk$lh$mz#si#tn#lmg#qbg#kyg#orkz#COMMERCIAL AT#picaA&B&C
&D&E&F&G&H&I&J&K&L&M&N&O&P&Q&R&S&T&U&V&W&X&Y&Z#kkldkt#rwqz#hldkt#kupk#sbqj#nvpk#pidaA&B&C&D&E&F&
G&H&I&J&K&L&M&N&O&P&Q&R&S&T&U&V&W&X&Y&Z#kktqkt#kdqj#htqkt#mg#kkkslt#hkslt!HALFWIDTHqkrtpr#kkqokt
#hqokt#qkof#vjkrmm$aWO%dA&I&U&E&O&YA&YU&YO&TU#vkPROLONGEDyfkz#vjaA%I%U%E%O%KA%KI%KU%KE%KO%SA%SI%
SU%SE%SO%TA%TI%TU%TE%TO%NA%NI%NU%NE%NO%HA%HI%HU%HE%HO%MA%MI%MU%ME%MO%YA%YU%YO%RA%RI%RU%RE%RO%WA%
N$VOICEDyfkz$SEMI-VOICEDyfkz#HANGUL FILLER$aKIYEOK%SSANGKIYEOK%KIYEOK-SIOS%NIEUN%NIEUN-CIEUC%NIE
UN-HIEUH%TIKEUT%SSANGTIKEUT%RIEUL%RIEUL-KIYEOK%RIEUL-MIEUM%RIEUL-PIEUP%RIEUL-SIOS%RIEUL-THIEUTH%
RIEUL-PHIEUPH%RIEUL-HIEUH%MIEUM%PIEUP%SSANGPIEUP%PIEUP-SIOS%SIOS%SSANGSIOS%IEUNG%CIEUC%SSANGCIEU
C%CHIEUCH%KHIEUKH%THIEUTH%PHIEUPH%HIEUH@FFC2%A%AE%YA%YAE%EO%E@FFCA%YEO%YE%O%WA%WAE%OE@FFD2%YO%U%
WEO%WE%WI%YU@FFDA%EU%YI%I@FFE0!FULLWIDTH CENTg#POUNDg#vtg#nf#BROKENpq#YENg#WONg@FFE8!HALFWIDTH F
ORMSmbkd#kcf#lff#kaf#kof#knld#ksle@FFF9!INTERLINEAR ANNOTATION ANCHOR$oy$TERMINATOR!OBJECT REPLA
CEMENTvz!REPLACEMENTvz@10000!LINEAR BslB008 A%B038 E%B028 I%B061 O%B010 U%B001 DA%B045 DE%B007 D
I%B014 DO%B051 DU%B057 JA%B046 JE@1000D%B036 JO%B065 JU%B077 KA%B044 KE%B067 KI%B070 KO%B081 KU%
B080 MA%B013 ME%B073 MI%B015 MO%B023 MU%B006 NA%B024 NE%B030 NI%B052 NO%B055 NU%B003 PA%B072 PE%
B039 PI%B011 PO%B050 PU%B016 QA%B078 QE%B021 QI%B032 QO@10028%B060 RA%B027 RE%B053 RI%B002 RO%B0
26 RU%B031 SA%B009 SE%B041 SI%B012 SO%B058 SU%B059 TA%B004 TE%B037 TI%B005 TO%B069 TU%B054 WA%B0
75 WE%B040 WI%B042 WO@1003C%B017 ZA%B074 ZE@1003F%B020 ZO%B025 A2%B043 A3%B085 AU%B071 DWE%B09
0 DWO%B048 NWA%B029 PU2%B062 PTE%B076 RA2%B033 RA3%B068 RO2%B066 TA2%B087 TWE%B091md@10050$klB01
8%B019%B022%B034%B047%B049%B056%B063%B064%B079%B082%B083%B086%B089@10080$IDEOGRAM B100 MAN%B10
2 WOMAN%B104 DEER%B105 EQUID%B105F MARE%B105M STALLION%B106F EWE%B106M RAM%B107F SHE-GOAT%B107
M HE-GOAT%B108F SOW%B108M BOAR%B109F COW%B109M BULL%B120 WHEAT%B121 BARLEY%B122 OLIVE%B123 SPICE
%B125 CYPERUS$MONOGRAM B127 KAPO%B128 KANAKO$IDEOGRAM B130 OIL%B131 WINE%B132$MONOGRAM B133 AREP
A%B135 MERI$IDEOGRAM B140 BRONZE%B141 GOLD%B142%B145 WOOL%B146%B150%B151ul%B152%B153%B154$MONOGR
AM B156 TURO2$IDEOGRAM B157%B158%B159 CLOTH%B160%B161%B162 GARMENT%B163 ARMOUR%B164%B165%B166%B1
67%B168%B169%B170%B171%B172%B173 MONTH%B174%B176 TREE%B177%B178%B179%B180%B181%B182%B183%B184%B1
85%B189%B190%B191 HELMET%B220 FOOTSTOOL%B225 BATHTUB%B230 SPEAR%B231f%B232%B233 SWORD%B234%B236%
B240 WHEELED CHARIOT%B241 CHARIOT%B242 CHARIOT FRAME%B243 WHEEL%B245%B246$MONOGRAM B247 DIPTE$ID
EOGRAM B248%B249%B251%B252%B253%B254 DART%B255%B256%B257%B258%B259%VESSEL B155&B200&B201&B202&B2
03&B204&B205&B206&B207&B208&B209&B210&B211&B212&B213&B214&B215&B216&B217&B218&B219&B221&B222&B22
6&B227&B228&B229&B250&B305@10100!AEGEAN WORDoyqj%mm#CHECKkz@10107#ngmi$md$km$lj$lo$pl$lk$lh$mz$t
a$pc$sx$ww$sa$ye$ov$wb$pp$mikp$mdkp$kmkp$ljkp$lokp$plkp$lkkp$lhkp$mzkp$mikq$mdkq$kmkq$ljkq$lokq$
plkq$lkkq$lhkq$mzkq$takq$pckq$sxkq$wwkq$sakq$yekq$ovkq$wbkq$ppkq@10137#WEIGHT BASE UNIT$FIRST SU
BUNIT$SECOND SUBUNIT$THIRD SUBUNIT$FOURTH SUBUNIT#DRY MEASURE FIRST SUBUNIT#LIQUID MEASURE FIRS
T SUBUNIT#MEASURE SECOND SUBUNIT$THIRD SUBUNIT!twACROPHONIC ATTICmipa&mr&DRACHMA%lo%sa%lokp&kq%s
akq%loTALENTS%taTALENTS%saTALENTS%mikpTALENTS%lokpTALENTS%mikqTALENTS%lokqTALENTS&STATERS%taSTAT
ERS%saSTATERS%mikpSTATERS%lokpSTATERS%mikqSTATERS%takqSTATERS%sakqSTATERS%taMNAS$HERAEUMmiPLETHR
ON$THESPIANmi$HERMIONIANmi$EPIDAUREANmd$THESPIANmd$CYRENAICmdDRACHMAS$EPIDAUREANmdDRACHMAS$TROEZ
ENIANlo%ta&pfe$HERMIONIANta$MESSENIANta$THESPIANta%sx$TROEZENIANsa&pfe$HERMIONIANsa$THESPIANsa%m
ikp%kmkp$EPIDAUREANlokp$TROEZENIANlokp$THESPIANlokp$CARYSTIANlokp$NAXIANlokp$THESPIANmikq%lokq$D
ELPHICloMNAS$STRATIANsaMNAS#mimrg&pfe#mdTHIRDSg#kmswg#YEARg#TALENTg#DRACHMAg#OBOLg#mdOBOLSg#kmOB
OLSg#ljOBOLSg#loOBOLSg#METRETESg#KYATHOS BASEg#LITRAg#OUNKIAg#XESTESg#ARTABEg#AROURAg#GRAMMAg#TR
YBLION BASEg#okg#mipag#SINUSOIDg#INDICTIONg!NOMISMAg@10190!ROMAN SEXTANSg#UNCIAg#SEMUNCIAg#SEXTU
LAg#DIMIDIA SEXTULAg#SILIQUAg#DENARIUSg#QUINARIUSg#SESTERTIUSg#DUPONDIUSg#ASg#CENTURIALg!ASCIAkl
@101A0!twklTAU RHO@101D0!PHAISTOS DISCgPEDESTRIAN%PLUMED HEAD%TATTOOED HEAD%CAPTIVE%CHILD%WOMAN%
HELMET%GAUNTLET%TIARA%f%BOW%SHIELD%CLUB%MANACLES%MATTOCK%SAW%LID%BOOMERANG%CARPENTRY PLANE%DOLIU
M%COMB%SLING%COLUMN%BEEHIVE%SHIP%ul%HIDE%BULLS LEG%CAT%RAM%EAGLE%DOVE%TUNNY%BEE%PLANE TREE%VINE%
PAPYRUS%ROSETTE%LILY%OX BACK%FLUTE%GRATER%STRAINER%dAXE%WAVY BAND%naufkj@10280!LYCIANaA$E$B$BH$G
$D$I$W$Z$TH$J$K$Q$L$M$N$MM$NN$U$P$KK$R$S$T$TT$AN$EN$H$X@102A0!CARIANaA$P2$D$L$UUU$R$LD$A2$Q$B$M$
O$D2$T$SH$SH2$S$C-18$U$NN$X$N$TT2$P$SS$I$E$UUUU$K$K2$ND$UU$G$G2$ST$ST2$NG$II$C-39$TT$UUU2$RR$MB$
MB2$MB3$MB4$LD2$E2$UUU3@102E0!rzEPACTxpkz$mhmi%md%km%lj%lo%pl%lk%lh%mz$ngta%pc%sx%ww%sa%ye%ov%wb
%pp%mikp%mdkp%kmkp%ljkp%lokp%plkp%lkkp%lhkp%mzkp@10300!wqITALICaA%BE%KE%DE%E%VE%ZE%HE%THE%I%KA%E
L%EM%EN%ESH%O%PE%SHE%KU%ER%ES%TE%U%EKS%PHE%KHE%EF%ERS%CHE%II%UU%ESS$ysmi%lo%ta%sa@1032D$aYE%NORT
HERN TSE%SOUTHERN TSE!GOTHICaAHSA$BAIRKAN$GIBA$DAGS$AIHVUS$QAIRTHRA$IUJA$HAGL$THIUTH$EIS$KUSMA$L
AGUS$MANNA$NAUTHS$JER$URUS$PAIRTHRA$pp$RAIDA$SAUIL$TEIWS$WINJA$FAIHU$IGGWS$HWAIR$OTHAL$mzkp@1035
0!wqPERMICaAN%BUR%GAI%DOI%E%ZHOI%DZHOI%ZATA%DZITA%I%KOKE%LEI%MENOE%NENOE%VOOI%PEEI%REI%SII%TAI%U
%CHERY%SHOOI%SHCHOOI%YRY%YERU%O%OO%EF%HA%TSIU%VER%YER%YERI%YAT%IE%YU%YA%IA!nawqPERMICaAN&DOI&ZAT
A&NENOE&SII@10380!UGARITICaALPA$BETA$GAMLA$uu$vw$HO$WO$ZETA$HOTA$TET$YOD$KAF$vv$LAMDA$MEM$DHAL$y
l$ZU$SAMKA$AIN$PU$SADE$QOPA$RASHA$THANNA$xz$TO$I$U$SSU@1039F#WORD DIVIDER!wqPERSIANgA%I%U%KA%KU%
GA%GU%XA%CA%JA%JI%TA%TU%DA%DI%DU%vs%PA%BA%FA%NA%NU%MA%MI%MU%YA%VA%VI%RA%RU%LA%SA%ZA%tt%SSA%HA@10
3C8%AURAMAZDAA%AURAMAZDAA-2%AURAMAZDAAHA%XSHAAYATHIYA%DAHYAAUSH%DAHYAAUSH-2%BAGA%BUUMISH$WORD DI
VIDER$ngmi%md%ta%pc%kp@10400!DESERETcaoxI&E&A&AH&O&OO%pjI&E&A&AH&O&OO%AY%OW%WU%YEE%H%PEE%BEE%TEE
%DEE%CHEE%JEE%KAY%GAY%EF%VEE%ETH%THEE%ES%ZEE%ESH%ZHEE%ER%EL%EM%EN%ENG%OI%EW#daoxI&E&A&AH&O&OO%pj
I&E&A&AH&O&OO%AY%OW%WU%YEE%H%PEE%BEE%TEE%DEE%CHEE%JEE%KAY%GAY%EF%VEE%ETH%THEE%ES%ZEE%ESH%ZHEE%ER
%EL%EM%EN%ENG%OI%EW!SHAVIANaPEEP$TOT$KICK$FEE$THIGH$SO$SURE$CHURCH$YEA$HUNG$BIB$DEAD$GAG$VOW$THE
Y$ZOO$MEASURE$JUDGE$WOE$HA-HA$LOLL$MIME$IF$EGG$zb$ADO$ON$WOOL$OUT$AH$ROAR$yl$EAT$AGE$ICE$UP$OAK$
OOZE$OIL$AWE$ARE$OR$AIR$ERR$ARRAY$EAR$IAN$YEW!OSMANYAanr$BA$TA$JA$XA$uu$DEEL$RA$SA$SHIIN$yj$CAYN
$GA$FA$QAAF$KAAF$LAAN$MIIN$NUUN$WAW$HA$YA$A$E$I$O$U$AA$EE$OO@104A0#mhok$mi$md$km$lj$lo$pl$lk$lh$
mz@104B0!OSAGEcaA%AI%AIN%AH%BRA%uk%EHCHA%E%EIN%HA%HYA%I%KA%EHKA%KYA%LA%MA%NA%O%OIN%PA%EHPA%SA%tt
%TA%EHTA%TSA%EHTSA%TSHA%yj%U%WA%uu%yk%ZA%ZHA@104D8#daA%AI%AIN%AH%BRA%uk%EHCHA%E%EIN%HA%HYA%I%KA%
EHKA%KYA%LA%MA%NA%O%OIN%PA%EHPA%SA%tt%TA%EHTA%TSA%EHTSA%TSHA%yj%U%WA%uu%yk%ZA%ZHA@10500!ELBASANa
A$BE$CE$CHE$DE$NDE$DHE$EI$E$FE$GE$GJE$HE$I$JE$KE$LE$LLE$ME$NE$NA$NJE$O$PE$QE$RE$RRE$SE$SHE$TE$TH
E$U$VE$XE$Y$ZE$ZHE$GHE$GHAMMA$KHE@10530!CAUCASIAN ALBANIANaALT%BET%GIM%DAT%EB%ZARL%EYN%ZHIL%TAS%
uk%YOWD%ZHA%IRB%tt%LAN%INYA%XEYN%DYAN%CAR%JHOX%KAR%LYIT%HEYT%QAY%AOR%CHOY%CHI%CYAY%MAQ%QAR%NOWC%
DZYAY%SHAK%JAYN%ON%TYAY%FAM%DZAY%CHAT%PEN%GHEYS%RAT%SEYK%VEYZ%TIWR%SHOY%IWN%CYAW%CAYN%YAYD%PIWR%
KIW@1056F$CITATIONkz!VITHKUQIcaA%BBE%BE%CE%CHE%DE%DHE%EI%E%FE%GA@1057C%HA%HHA%I%IJE%JE%KA%LA%LLA
%ME%NE%NJE%O%PE%QA%RE@1058C%SE%SHE%TE%THE%U%VE%XE@10594%Y%ZE@10597#daA%BBE%BE%CE%CHE%DE%DHE%EI%E
%FE%GA@105A3%HA%HHA%I%IJE%JE%KA%LA%LLA%ME%NE%NJE%O%PE%QA%RE@105B3%SE%SHE%TE%THE%U%VE%XE@105BB%Y%
ZE@10600!LINEAR AgAB001%AB002%AB003%AB004%AB005%AB006%AB007%AB008%AB009%AB010%AB011%AB013%AB016%
AB017%AB020%AB021%AB021F%AB021M%AB022%AB022F%AB022M%AB023%AB023M%AB024%AB026%AB027%AB028%A028B%A
B029%AB030%AB031%AB034%AB037%AB038%AB039%AB040%AB041%AB044%AB045%AB046%AB047%AB048%AB049%AB050%A
B051%AB053%AB054%AB055%AB056%AB057%AB058%AB059%AB060%AB061%AB065%AB066%AB067%AB069%AB070%AB073%A
B074%AB076%AB077%AB078%AB079%AB080%AB081%AB082%AB085%AB086%AB087%A100-102%AB118%AB120%A120B%AB12
2%AB123%AB131A%AB131B%A131C%AB164%AB171%AB180%AB188%AB191%A301%A302%A303%A304%A305%A306%A307%A30
8%A309A%A309B%A309C%A310%A311%A312%A313A%A313B%A313C%A314%A315%A316%A317%A318%A319%A320%A321%A32
2%A323%A324%A325%A326%A327%A328%A329%A330%A331%A332%A333%A334%A335%A336%A337%A338%A339%A340%A341
%A342%A343%A344%A345%A346%A347%A348%A349%A350%A351%A352%A353%A354%A355%A356%A357%A358%A359%A360%
A361%A362%A363%A364%A365%A366%A367%A368%A369%A370%A371%A400-VAS%A401-VAS%A402-VAS%A403-VAS%A404-
VAS%A405-VAS%A406-VAS%A407-VAS%A408-VAS%A409-VAS%A410-VAS%A411-VAS%A412-VAS%A413-VAS%A414-VAS%A4
15-VAS%A416-VAS%A417-VAS%A418-VAS%A501%A502%A503%A504%A505%A506%A508%A509%A510%A511%A512%A513%A5
15%A516%A520%A521%A523%A524%A525%A526%A527%A528%A529%A530%A531%A532%A534%A535%A536%A537%A538%A53
9%A540%A541%A542%A545%A547%A548%A549%A550%A551%A552%A553%A554%A555%A556%A557%A559%A563%A564%A565
%A566%A568%A569%A570%A571%A572%A573%A574%A575%A576%A577%A578%A579%A580%A581%A582%A583%A584%A585%
A586%A587%A588%A589%A591%A592%A594%A595%A596%A598%A600%A601%A602%A603%A604%A606%A608%A609%A610%A
611%A612%A613%A614%A615%A616%A617%A618%A619%A620%A621%A622%A623%A624%A626%A627%A628%A629%A634%A6
37%A638%A640%A642%A643%A644%A645%A646%A648%A649%A651%A652%A653%A654%A655%A656%A657%A658%A659%A66
0%A661%A662%A663%A664@10740%A701 A%A702 B%A703 D%A704 E%A705 F%A706 H%A707 J%A708 K%A709 L%A709-
2 L2%A709-3 L3%A709-4 L4%A709-6 L6%A710 W%A711 X%A712 Y%A713rc%A714 ABB%A715 BB%A717 DD%A726 EYY
Y%A732 JE@10760%A800%A801%A802%A803%A804%A805%A806%A807@10780!onadcAA$rjossi%mrossi$dAE%cB%Bbll@
10787%DZqe(bmpll)zq%DEZHqe%Dbrk(ll)kxrk%lgE%qalgotE%FENGqe%RAMSul%cG%Gbll%cGbll%Hbkj%cH%HENGbll%
uoJbkjkxll%LSqe%LZqe%LbBELT%cLbBELT%LbmpllkxBELT%LEZH&bmpll%lwY(bBELT%Obkj%cOE%qarc%Q%lwRboxLEG+
kxmpll%Rbrk(FISHHOOK%cR%TCqebzq%TSqe(bmpll%TESHqe%Tbmpll%Vbhll@107B2%cY$qfprbkj$lgqfprbkj$BILABI
AL CLICK$DENTAL CLICK$LATERAL CLICK$ALVEOLAR CLICK$mpCLICKbmpll$dSbzq@10800!CYPRIOTslA$E$I$O$U$J
A@10808$JO@1080A$KA$KE$KI$KO$KU$LA$LE$LI$LO$LU$MA$ME$MI$MO$MU$NA$NE$NI$NO$NU$PA$PE$PI$PO$PU$RA$R
E$RI$RO$RU$SA$SE$SI$SO$SU$TA$TE$TI$TO$TU$WA$WE$WI$WO@10837$XA$XE@1083C$ZA@1083F$ZO!IMPERIAL ARAM
AICaxt%BETH%yo%DALETH%HE%WAW%ZAYIN%HETH%TETH%YODH%KAPH%wd%MEM%yl%vr%AYIN%PE%SADHE%QOPH%RESH%vv%T
AW@10857$qyg$ngmi%md%km%ta%pc%mikp&kq%takq!PALMYRENEaxt$BETH$yo$DALETH$HE$WAW$ZAYIN$HETH$TETH$YO
DH$KAPH$wd$MEM$khyl$yl$vr$AYIN$PE$SADHE$QOPH$RESH$vv$TAW#ntFLEURON#msFLEURON#ngmi$md$km$lj$lo$ta
$pc!NABATAEANakhxt$xt$khBETH$BETH$yo$DALETH$khHE$HE$WAW$ZAYIN$HETH$TETH$khYODH$YODH$khKAPH$KAPH$
khwd$wd$khMEM$MEM$khyl$yl$vr$AYIN$PE$SADHE$QOPH$RESH$khvv$vv$TAW@108A7#ngmi$md$km$lj#CRUCIFORMng
lj#nglo$ta$pc$mikp@108E0!HATRANaxt$BETH$yo$DALETH-RESH$HE$WAW$ZAYN$HETH$TETH$YODH$KAPH$wd$MEM$yl
$vr$AYN$PE$SADHE$QOPH@108F4$vv$TAW@108FB#ngmi$lo$ta$pc$mikp!PHOENICIANaALF$BET$GAML$DELT$HE$WAU$
ZAI$HET$TET$YOD$KAF$LAMD$MEM$yl$SEMK$AIN$PE$SADE$QOF$ROSH$vv$TAU#ngmi$ta$pc$mikp$md$km@1091F#WOR
Doy!LYDIANaA$B$G$D$E$V$I$Y$K$L$M$N$O$R$SS$T$U$F$Q$S$TT$AN$EN$LY$NN$C@1093F#oskz@10980!MEROITIC H
IEROGLYPHICaA%E%I%O%YA%WA%BA%BA-2%PA%MA%NA%NA-2%NE%NE-2%RA%RA-2%LA%uu%HHA%SA%SA-2%SE%KA%QA%TA%TA
-2%TE%TE-2%TO%DA$klVIDJ%VIDJ-2#CURSIVEaA%E%I%O%YA%WA%BA%PA%MA%NA%NE%RA%LA%uu%HHA%SA%sgSA%SE%KA%Q
A%TA%TE%TO%DA@109BC$rgzewo%mimr$LOGOGRAM RMT%IMN$ngmi%md%km%lj%lo%pl%lk%lh%mz%ta%pc%sx%ww%sa%ye%
ov@109D2%mikp%mdkp%kmkp%ljkp%lokp%plkp%lkkp%lhkp%mzkp%mikq%mdkq%kmkq%ljkq%lokq%plkq%lkkq%lhkq%mz
kq%takq%pckq%sxkq%wwkq%sakq%yekq%ovkq%wbkq%ppkq%mikpkq%mdkpkq%kmkpkq%ljkpkq%lokpkq%plkpkq%lkkpkq
%lhkpkq%mzkpkq$rgmiTWELFTH%mdwo%kmwo%ljwo%lowo%plwo%lkwo%lhwo%mzwo%tawo!KHAROSHTHIaA#mcgI%U%moR@
10A05%E%O@10A0C$wekz#gkbnxkg$ml$ol#aKA$uu$GA$yk@10A15$CA$uk$JA@10A19$up$xq$sy$xw$tk$zi$TA$vs$DA$
yj$NA$PA$wl$BA$zm$MA$YA$RA$LA$VA$tt$SSA$SA$ZA$HA$KKA$TTTHA$TTTA$VHA@10A38#gpqi$CAUDA$mmkg@10A3F#
pd#mhmi$md$km$lj#ngta$pc$mikp%kq#rgmimr@10A50#lsmm$dle$le$CRESCENTpq$MANGALAM$LOTUS$sp$kbsp$LINE
S@10A60!wqqlARABIANaHE&wd&HETH&MEM&QOPH&WAW&vv&RESH&BETH&TAW&SAT&KAPH&yl&KHETH&SADHE&vr&FE&nr&AY
N&DHADHE&yo&DALETH&GHAYN&TETH&ZAYN&DHALETH&YODH&THAW&THETH%ngmi&sa%NUMERICxm#puARABIANaHEH&LAM&s
j&mk&QAF&WAW&ES-2&REH&BEH&TEH&ES-1&KAF&tp&rl&SAD&ES-3&FEH&nr&AIN&DAD&GEEM&DAL&xz&TAH&ZAIN&THAL&q
v&THEH&ZAH%ngmi&ta&pc@10AC0!MANICHAEANaxt$BETH$BHETH$yo$GHIMEL$DALETH$HE$WAW#gUD#aZAYIN$ZHAYIN$J
AYIN$JHAYIN$HETH$TETH$YODH$KAPH$XAPH$KHAPH$wd$DHAMEDH$THAMEDH$MEM$yl$vr$AYIN$AAYIN$PE$FE$SADHE$Q
OPH$XOPH$QHOPH$RESH$vv$SSHIN$TAW#ookzi%kg@10AEB#ngmi$lo$ta$pc$mikp#lsqw$FLEURON$kbmmWITHINmm$mmW
ITHINmm%$mdnk$qjFILLER@10B00!AVESTANaA$AA$AO$AAO$AN$AAN$AE$AEE$E$EE$O$OO$I$II$U$UU$KE$XE$XYE$XVE
$GE$GGE$GHE$CE$JE$TE$THE$DE$DHE$TTE$PE$FE$BE$BHE$NGE$NGYE$NGVE$NE$NYE$NNE$ME$HME$YYE$YE$VE$RE$LE
$SE$ZE$SHE$ZHE$SHYE$SSHE$HE@10B39#ookz!TINYmdnknmmimmls!dmdnknmmimmls!nsmdnknmmimmls#mimmnmmdnkl
s#mdRINGSnmminxls#minxnmmdRINGSls!INSCRIPTIONAL PARTHIANaxt%BETH%yo%DALETH%HE%WAW%ZAYIN%HETH%TET
H%YODH%KAPH%wd%MEM%yl%vr%AYIN%PE%SADHE%QOPH%RESH%vv%TAW@10B58$ngmi%md%km%lj%ta%pc%mikp&kq#PAHLAV
Iaxt%BETH%yo%DALETH%HE%WAW-AYIN-RESH%ZAYIN%HETH%TETH%YODH%KAPH%wd%MEM-QOPH%yl%vr%PE%SADHE%vv%TAW
@10B78$ngmi%md%km%lj%ta%pc%mikp&kq!PSALTER PAHLAVIaxt%BETH%yo%DALETH%HE%WAW-AYIN-RESH%ZAYIN%HETH
%YODH%KAPH%wd%MEM-QOPH%yl%vr%PE%SADHE%vv%TAW@10B99$qykz$lwqykz$ljnkbqd(mm@10BA9$ngmi%md%km%lj%ta
%pc%mikp@10C00!wqTURKICarbA%qhA&AE%rbI%qhI&E%rbO&OE%qhOE%rbAB%qhAB%rbAEB%qhAEB%rbAG%qhAG%rbAEG%q
hAEG%rbAD%qhAD%rbAED&EZ%qhEZ%rbAY%qhAY%rbAEY%qhAEY%rbAEK%qhAEK%rbOEK%qhOEK%rbAL%qhAL%rbAEL&ELT&E
M&AN&AEN%qhAEN%rbENT%qhENT%rbENC%qhENC%rbENY%qhENY&ANG%rbENG%qhAENG%rbEP&OP&IC&EC%qhEC%rbAQ%qhAQ
%rbIQ%qhIQ%rbOQ%qhOQ%rbAR%qhAR%rbAER&AS&AES&zb%qhzb%rbESH%qhESH%rbAT%qhAT%rbAET%qhAET%rbOT&BASH@
10C80#HUNGARIANcaA&AA&EB&AMB&EC&ENC&ECS&ED&kx&E&CLOSE E&EE&EF&EG&EGY&EH&I&II&EJ&EK&AK&UNK&EL&ELY
&EM&EN&ENY&O&OO&NIKOLSBURG OE&RUDIMENTA OE&OEE&EP&EMP&ER&pjER&ES&ESZ&ET&ENT&ETY&ECH&U&UU&NIKOLSB
URG UE&RUDIMENTA UE&EV&EZ&EZS&ENT-SHAPEDg&US@10CC0$daA&AA&EB&AMB&EC&ENC&ECS&ED&kx&E&CLOSE E&EE&E
F&EG&EGY&EH&I&II&EJ&EK&AK&UNK&EL&ELY&EM&EN&ENY&O&OO&NIKOLSBURG OE&RUDIMENTA OE&OEE&EP&EMP&ER&pjE
R&ES&ESZ&ET&ENT&ETY&ECH&U&UU&NIKOLSBURG UE&RUDIMENTA UE&EV&EZ&EZS&ENT-SHAPEDg&US@10CFA$ngmi%lo%t
a%sa%mikp&kq!HANIFI ROHINGYAaA%BA%PA%TA%xq%JA%CA%HA%uu%FA%DA%xw%RA%RRA%ZA%SA%tt%KA%GA%LA%MA%NA%W
A%KINNA WA%YA%KINNA YA%ts%up%VA$mcA%I%U%E%O$kzSAKIN%NA KHONNA$gHARBAHAY%TAHALA%TANA%TASSI@10D30$
mhok%mi%md%km%lj%lo%pl%lk%lh%mz@10E60!RUMImhmi$md$km$lj$lo$pl$lk$lh$mz#ngta$pc$sx$ww$sa$ye$ov$wb
$pp$mikp$mdkp$kmkp$ljkp$lokp$plkp$lkkp$lhkp$mzkp#rgmimr%pa%THIRD$mdTHIRDS@10E80!YEZIDIaELIF$BE$P
E$PHE$THE$SE$CIM$CHIM$CHHIM$HHA$XA$DAL$ZAL$RA$RHA$ZA$JA$SIN$vv$SAD$DAD$TA$ZE$EYN$XHEYN$FA$VA%pfe
$QAF$KAF$KHAF$GAF$LAM$MIM$yl$UM$WAW$OW$EW$HAY$YOT$ET@10EAB#narnkz$MADDAkz#HYPHENATIONkz@10EB0#aL
AMbmmi$YOTbkui@10F00!wqSOGDIANaxt%khxt%BETH%khBETH%yo%HE%khHE%WAW%ZAYIN%HETH%YODH%KAPH%wd%MEM%yl
%khyl(bkdrk%vr%AYIN%pfAYIN%PE%SADHE%khSADHE(bkdrk%RESH-AYIN-DALETH%vv%TAW%khTAW(bkdrk$ngmi%md%km
%lj%lo%ta%pc%sx%mikp$rgmimr$nzAYIN-DALETH@10F30!SOGDIANaxt$BETH$yo$HE$WAW$ZAYIN$HETH$YODH$KAPH$w
d$MEM$yl$vr$AYIN$PE$SADHE$RESH-AYIN$vv$TAW$FETH$LESH#uxvv#nammkg$mdnkkg$mmi$mdnki$wvi%kg$lli%kg$
oxllkg$RESHkg$kjkg#ngmi$ta$pc$mikp#lsmdkdBARS(bnk$lebmm$mdvdbnk$mrlebmm@10F70!wqUYGHURaxt%BETH%G
IMEL-HETH%WAW%ZAYIN%khHETH%YODH%KAPH%wd%MEM%yl%vr%PE%SADHE%RESH%vv%TAW%LESH$nammi&kg%mdnki(kg$ls
pq%mdBARS&nk%ljnk@10FB0!CHORASMIANaxt$dxt$BETH$yo$DALETH$HE$WAW$CURLED WAW$ZAYIN$HETH$YODH$KAPH$
wd$MEM$yl$vr$AYIN$PE$RESH$vv$TAW#ngmi$md$km$lj$ta$pc$mikp@10FE0!ELYMAICaxt$BETH$yo$DALETH$HE$WAW
$ZAYIN$HETH$TETH$YODH$KAPH$wd$MEM$yl$vr$AYIN$PE$SADHE$QOPH$RESH$vv$TAW#nzZAYIN-YODH@11000!BRAHMI
gmy$ml$ol$yq$yz#aA$AA$I$II$U$UU$moR%RR%L%LL$E$AI$O$AU$KA$uu$GA$yk$ts$CA$uk$JA$JHA$up$xq$sy$xw$tk
$zi$TA$vs$DA$yj$NA$PA$wl$BA$zm$MA$YA$RA$LA$VA$tt$SSA$SA$HA$LLA$wqTAMIL LLLA&RRA&NNNA#mcgAA%BHATT
IPROLU AA%I%II%U%UU%moR&RR&L&LL%E%AI%O%AU#pd#sp#kbsp#lsmm$kbmm$qj$CRESCENTpq$LOTUS@11052#ngmi$md
$km$lj$lo$pl$lk$lh$mz$ta$pc$sx$ww$sa$ye$ov$wb$pp$mikp%kq#mhok$mi$md$km$lj$lo$pl$lk$lh$mz#gwqTAMI
Lpd#awqTAMILpjE(O#mcgwqTAMILpjE)O#awqTAMIL LLA@1107F#ngJOINER!KAITHIgmy$ml$ol#aA$AA$I$II$U$UU$E$
AI$O$AU$KA$uu$GA$yk$ts$CA$uk$JA$JHA$up$xq$sy$xw$DDDHA$tk$RHA$zi$TA$vs$DA$yj$NA$PA$wl$BA$zm$MA$YA
$RA$LA$VA$tt$SSA$SA$HA#mcgAA%I%II%U%UU%E%AI%O%AU#gpd$tz#oog#ENUMERATIONg#ngg#qykz#kbqykz#sp#kbsp
#mcgmoR@110CD#nggi@110D0!SORA SOMPENGaSAH%TAH%BAH%CAH%DAH%GAH%MAH%NGAH%LAH%NAH%VAH%PAH%YAH%RAH%s
j%KAH%JAH%NYAH%AH%EEH%IH%UH%OH%EH%MAE@110F0$mhok%mi%md%km%lj%lo%pl%lk%lh%mz@11100!CHAKMAgmy$ml$o
l#aAA$I$U$E$KAA$KHAA$GAA$GHAA$NGAA$CAA$CHAA$JAA$JHAA$NYAA$TTAA$TTHAA$DDAA$DDHAA$NNAA$TAA$THAA$DA
A$DHAA$NAA$PAA$PHAA$BAA$BHAA$MAA$YYAA$YAA$RAA$LAA$WAA$SAA$HAA#mcgA%I%II%U%UU%E%AI%O%AU%OI#Okz#AU
kz#pd#MAAYYAA@11136#mhok$mi$md$km$lj$lo$pl$lk$lh$mz#qykz#sp#kbsp#orkz#aLHAA#mcgAA%EI#aVAA@11150!
MAHAJANIaA$I$U$E$O$KA$uu$GA$yk$CA$uk$JA$JHA$up$xq$sy$xw$tk$zi$TA$vs$DA$yj$NA$PA$wl$BA$zm$MA$RA$L
A$VA$SA$HA$RRA#gtz#oog#qykz#nzSHRI@11180!SHARADAgmy$ml$ol#aA$AA$I$II$U$UU$moR%RR%L%LL$E$AI$O$AU$
KA$uu$GA$yk$ts$CA$uk$JA$JHA$up$xq$sy$xw$tk$zi$TA$vs$DA$yj$NA$PA$wl$BA$zm$MA$YA$RA$LA$LLA$VA$tt$S
SA$SA$HA#mcgAA%I%II%U%UU%moR&RR&L&LL%E%AI%O%AU#gpd$sh$yq$yz#OM#sp#kbsp#oog#oy#SANDHIkz#gtz#mconk
z#EXTRApjmckz#SUTRAkz#mcgPRISHTHAMATRA E#glqmy#mhok$mi$md$km$lj$lo$pl$lk$lh$mz#EKAM#gSIDDHAM#HEA
DSTROKE#CONTINUATIONg#qyMARK-1$MARK-2@111E1!SINHALAsgmhmi%md%km%lj%lo%pl%lk%lh%mz$ngta%pc%sx%ww%
sa%ye%ov%wb%pp%mikp&kq@11200!KHOJKIaA$AA$I$U$E$AI$O$AU$KA$uu$GA$GGA$yk$ts$CA$uk$JA$JJA@11213$up$
xq$sy$xw$tk$zi$TA$vs$DA$DDDA$yj$NA$PA$wl$BA$BBA$zm$MA$YA$RA$LA$VA$SA$HA$LLA#mcgAA%I%II%U%E%AI%O%
AU#gml$pd$tz$SHADDA#sp#kbsp#WORDoy#qykz#kbqykz#oog#gSUKUN@11280!MULTANIaA$I$U$E$KA$uu$GA@11288$y
k@1128A$CA$uk$JA$JJA@1128F$up$xq$sy$xw$DDDA$tk$zi$TA$vs$DA$yj$NA$PA$wl$BA@1129F$zm$MA$YA$RA$LA$V
A$SA$HA$RRA$RHA#qykz@112B0!KHUDAWADIaA$AA$I$II$U$UU$E$AI$O$AU$KA$uu$GA$GGA$yk$ts$CA$uk$JA$JJA$JH
A$up$xq$sy$xw$DDDA$RRA$tk$zi$TA$vs$DA$yj$NA$PA$wl$BA$BBA$zm$MA$YA$RA$LA$VA$tt$SA$HA#gml#mcgAA%I%
II%U%UU%E%AI%O%AU#gtz$pd@112F0#mhok$mi$md$km$lj$lo$pl$lk$lh$mz@11300!GRANTHAgnamli$my$ml$ol@1130
5#aA$AA$I$II$U$UU$moR%L@1130F$EE$AI@11313$OO$AU$KA$uu$GA$yk$ts$CA$uk$JA$JHA$up$xq$sy$xw$tk$zi$TA
$vs$DA$yj$NA@1132A$PA$wl$BA$zm$MA$YA$RA@11332$LA$LLA@11335$VA$tt$SSA$SA$HA@1133B!naBINDUkg!GRANT
HAgtz$sh#mcgAA%I%II%U%UU%moR&RR@11347%EE%AI@1134B%OO%AU#gpd@11350#OM@11357#AUwekz@1135D#gPLUTA#a
VEDICml%kbml$moRR%LL#mcgmoL&LL@11366!naGRANTHAmhok%mi%md%km%lj%lo%pl@11370$aA%KA%NA%VI%PA@11400!
NEWAaA$AA$I$II$U$UU$moR%RR%L%LL$E$AI$O$AU$KA$uu$GA$yk$ts$NGHA$CA$uk$JA$JHA$up$NYHA$xq$sy$xw$tk$z
i$TA$vs$DA$yj$NA$NHA$PA$wl$BA$zm$MA$MHA$YA$RA$RHA$LA$LHA$WA$tt$SSA$SA$HA#mcgAA%I%II%U%UU%moR&RR&
L&LL%E%AI%O%AU#gpd$my$ml$ol$tz$sh$khml#OM#SIDDHI#sp#kbsp#of#GAP FILLER#oog#mhok$mi$md$km$lj$lo$p
l$lk$lh$mz#kbof#PLACEHOLDERkz@1145D#INSERTIONg#SANDHIkz#aVEDICml#gyq$yz@11480!TIRHUTA ANJI#aA$AA
$I$II$U$UU$moR%RR%L%LL$E$AI$O$AU$KA$uu$GA$yk$ts$CA$uk$JA$JHA$up$xq$sy$xw$tk$zi$TA$vs$DA$yj$NA$PA
$wl$BA$zm$MA$YA$RA$LA$VA$tt$SSA$SA$HA#mcgAA%I%II%U%UU%moR&RR&L&LL%E%pjE%AI%O%pjO%AU#gmy$ml$ol$pd
$tz$sh#GVANG#oog#OM@114D0#mhok$mi$md$km$lj$lo$pl$lk$lh$mz@11580!SIDDHAMaA$AA$I$II$U$UU$moR%RR%L%
LL$E$AI$O$AU$KA$uu$GA$yk$ts$CA$uk$JA$JHA$up$xq$sy$xw$tk$zi$TA$vs$DA$yj$NA$PA$wl$BA$zm$MA$YA$RA$L
A$VA$tt$SSA$SA$HA#mcgAA%I%II%U%UU%moR&RR@115B8%E%AI%O%AU#gmy$ml$ol$pd$tz$SIDDHAM#sp#kbsp#oymm$pq
#REPETITION MARK-1$MARK-2$MARK-3#END OF TEXTkz#qykzbTRIDENTkxU-SHAPED ORNAMENTS)poxj&RAYSkxpoxj*
kbxj*ohxj%kbnx(bRAYS%bkbxj&ohxj&ugxj&SEPTUPLExj&vdkxRAYS)mdENCLOSURES)ljENCLOSURES#aTHREE-CIRCLE
pfI$TWO-CIRCLEpfI&II$pfU#mcgpfU&UU@11600!MODIaA$AA$I$II$U$UU$moR%RR%L%LL$E$AI$O$AU$KA$uu$GA$yk$t
s$CA$uk$JA$JHA$up$xq$sy$xw$tk$zi$TA$vs$DA$yj$NA$PA$wl$BA$zm$MA$YA$RA$LA$VA$tt$SSA$SA$HA$LLA#mcgA
A%I%II%U%UU%moR&RR&L&LL%E%AI%O%AU#gml$ol$pd$ARDHACANDRA#sp#kbsp#oog#gHUVA@11650#mhok$mi$md$km$lj
$lo$pl$lk$lh$mz@11660!MONGOLIAN BIRGAbme#mfBIRGA#kbBIRGAbme#ohBIRGAbme#BIRGAbkbme#mfBIRGAbme&kbm
e#lqBIRGA%bkbme#SWIRL BIRGA%bme&kbme#lwSWIRL BIRGAbkbme@11680!TAKRIaA$AA$I$II$U$UU$E$AI$O$AU$KA$
uu$GA$yk$ts$CA$uk$JA$JHA$up$xq$sy$xw$tk$zi$TA$vs$DA$yj$NA$PA$wl$BA$zm$MA$YA$RA$LA$VA$tt$SA$HA$RR
A#gml$ol#mcgAA%I%II%U%UU%E%AI%O%AU#gpd$tz#asguu#oog@116C0#mhok$mi$md$km$lj$lo$pl$lk$lh$mz@11700!
AHOMaKA$uu$ts$NA$TA$pfTA$PA$wl$BA$MA$JA$uk$vs$RA$LA$SA$up$HA$A$DA$yj$GA$pfGA$yk$zm$JHA$pfBA@1171
D#pgglvLA&RA&LIGATING RA#mcgA%AA%I%II%U%UU%E%AW%O%AI%AM#gKILLER@11730#mhok$mi$md$km$lj$lo$pl$lk$
lh$mz#ngta$pc#gdqy$qy$RULAI#klVI#aCA$xq$sy$xw$tk$zi$LLA@11800!DOGRAaA$AA$I$II$U$UU$E$AI$O$AU$KA$
uu$GA$yk$ts$CA$uk$JA$JHA$up$xq$sy$xw$tk$zi$TA$vs$DA$yj$NA$PA$wl$BA$zm$MA$YA$RA$LA$VA$tt$SSA$SA$H
A$RRA#mcgAA%I%II%U%UU%moR&RR%E%AI%O%AU#gml$ol$pd$tz#oog@118A0!WARANG CITIcaNGAA&A&WI&YU&YA&YO&II
&UU&E&O&ANG&GA&KO&ENY&YUJ&UC&ENN&ODD&TTE&NUNG&DA&AT&AM&BU&PU&HIYO&HOLO&HORR&HAR&SSUU&SII&VIYO$da
NGAA&A&WI&YU&YA&YO&II&UU&E&O&ANG&GA&KO&ENY&YUJ&UC&ENN&ODD&TTE&NUNG&DA&AT&AM&BU&PU&HIYO&HOLO&HORR
&HAR&SSUU&SII&VIYO$mhok%mi%md%km%lj%lo%pl%lk%lh%mz$ngta%pc%sx%ww%sa%ye%ov%wb%pp@118FF$OM!DIVES A
KURUaA%AA%I%II%U%UU%E@11909%O@1190C%KA%uu%GA%yk%ts%CA%uk%JA@11915%up%xq@11918%xw%tk%zi%TA%vs%DA%
yj%NA%PA%wl%BA%zm%MA%YA%YYA%RA%LA%VA%tt%SSA%SA%HA%LLA%ZA$mcgAA&I&II&U&UU&E@11937&AI&O@1193B$gml%
my%HALANTA$pd$PREFIXED NASALg$lvYA$kfRA$lvRA$gtz$kbsp$GAP FILLER$END OF TEXTkz@11950$mhok%mi%md%
km%lj%lo%pl%lk%lh%mz@119A0!NANDINAGARIaA$AA$I$II$U$UU$moR%RR@119AA$E$AI$O$AU$KA$uu$GA$yk$ts$CA$u
k$JA$JHA$up$xq$sy$xw$tk$zi$TA$vs$DA$yj$NA$PA$wl$BA$zm$MA$YA$RA$LA$VA$tt$SSA$SA$HA$LLA$RRA#mcgAA%
I%II%U%UU%moR&RR@119DA%E%AI%O%AU#gml$ol$pd$sh$SIDDHAM#HEADSTROKE#mcgPRISHTHAMATRA E@11A00!ZANABA
ZARldaA$mcgI&UE&U&E&OE&O&AI&AU&lgI%wekz$aKA%uu%GA%yk%ts%CA%uk%JA%up%xq%sy%xw%tk%zi%TA%vs%DA%yj%N
A%PA%wl%BA%zm%MA%TSA%TSHA%DZA%DZHA%ZHA%ZA%-A%YA%RA%LA%VA%tt%SSA%SA%HA%KSSA$khpgkz$gpd%my&bme%vyb
me%ml%ol$CLUSTER-INITIALaRA$CLUSTER-FINALaYA&RA&LA&VA$kfHEADkz$CLOSING HEADkz$kzTSHEG%SHAD%kbSHA
D%oxTSHEG$kfDOUBLE-LINED HEADkz$CLOSING DOUBLE-LINED HEADkz$SUBJOINER@11A50!SOYOMBOaA#mcgI%UE%U%
E%O%OE%AI%AU%moR&L$wekz#aKA$uu$GA$yk$ts$CA$uk$JA$JHA$up$xq$sy$xw$tk$zi$TA$vs$DA$yj$NA$PA$wl$BA$z
m$MA$TSA$TSHA$DZA$ZHA$ZA$-A$YA$RA$LA$VA$tt$SSA$SA$HA$KSSA#gyq$yz#CLUSTER-INITIALaRA%LA%tt%SA#khp
ggG&K&NG&D&N&B&M&R&L&SH&S&-A#gml$ol#GEMINATIONkz#SUBJOINER#kzTSHEG$SHAD$kbSHAD$PLUTA#HEADkzbxdkx
SUNkxohFLAME+FLAME*#TERMINAL MARK-1$MARK-2@11AB0!CANADIAN SYLLABICS NATTILIK HI%HII%HO%HOO%HA%HA
A%SHRI%SHRII%SHRO%SHROO%SHRA%SHRAA$SPE$SPI$SPO$SPA!PAU CIN HAUaPA&KA&LA&MA&DA&ZA&VA&ts&HA&GA&uu&
SA&BA&CA&TA&vs&NA&wl&RA&FA&uk&A&E&I&O&U&UA&IA&khP(K(T(M(N(L(W(NG(Y%ycpbox(%SANDHIqfpr%ycpboxkh(k
h%SANDHIqfprkh&pbox((oxkh(kh%MID-LEVELpb%qfprrq%MID-LEVELpboxkh(kh%LOW-FALLINGpbox(%qfpr%LOW-FAL
LINGpboxkh(kh%qfprkh@11C00!BHAIKSUKIaA$AA$I$II$U$UU$moR%RR%L@11C0A$E$AI$O$AU$KA$uu$GA$yk$ts$CA$u
k$JA$JHA$up$xq$sy$xw$tk$zi$TA$vs$DA$yj$NA$PA$wl$BA$zm$MA$YA$RA$LA$VA$tt$SSA$SA$HA#mcgAA%I%II%U%U
U%moR&RR&L@11C38%E%AI%O%AU#gmy$ml$ol$pd$sh#sp#kbsp#WORDoy#GAP FILLER-1$FILLER-2@11C50#mhok$mi$md
$km$lj$lo$pl$lk$lh$mz#ngmi$md$km$lj$lo$pl$lk$lh$mz$ta$pc$sx$ww$sa$ye$ov$wb$pp#HUNDREDS UNITkz@11
C70!MARCHEN HEADkz#kzSHAD#aKA$uu$GA$ts$CA$uk$JA$up$TA$vs$DA$NA$PA$wl$BA$MA$TSA$TSHA$DZA$WA$ZHA$Z
A$-A$YA$RA$LA$tt$SA$HA$A@11C92#SUBJOINEDaKA%uu%GA%ts%CA%uk%JA%up%TA%vs%DA%NA%PA%wl%BA%MA%TSA%TSH
A%DZA%WA%ZHA%ZA@11CA9%YA%RA%LA%tt%SA%HA%A#mcgAA%I%U%E%O#gml$my@11D00!MASARAM GONDIaA%AA%I%II%U%U
U%E@11D08%AI%O@11D0B%AU%KA%uu%GA%yk%ts%CA%uk%JA%JHA%up%xq%sy%xw%tk%zi%TA%vs%DA%yj%NA%PA%wl%BA%zm
%MA%YA%RA%LA%VA%tt%SSA%SA%HA%LLA%KSSA%JNYA%TRA$mcgAA&I&II&U&UU&moR@11D3A&E@11D3C&AI&O@11D3F&AU$g
ml%ol%tz%vy%HALANTA$pd$REPHA$RA-KARA@11D50$mhok%mi%md%km%lj%lo%pl%lk%lh%mz@11D60!GUNJALA GONDIaA
%AA%I%II%U%UU@11D67%EE%AI@11D6A%OO%AU%YA%VA%BA%zm%MA%KA%uu%TA%vs%LA%GA%yk%DA%yj%NA%CA%uk%xq%sy%L
LA%JA%JHA%xw%tk%ts%PA%wl%HA%RA%SA$mcgAA&I&II&U&UU@11D90&EE&AI@11D93&OO&AU$gml%ol$pd$OM@11DA0$mho
k%mi%md%km%lj%lo%pl%lk%lh%mz@11EE0!MAKASARaKA$GA$ts$PA$BA$MA$TA$DA$NA$CA$JA$up$YA$RA$LA$VA$SA$A#
ANGKA#mcgI%U%E%O#PASSIMBANG#END OFqy@11FB0!LISUaYHA@11FC0!TAMILrgmiTHREE-HUNDRED-AND-TWENTIETH%O
NE-HUNDRED-AND-SIXTIETH%EIGHTIETH%SIXTY-FOURTH%FORTIETH%THIRTY-SECOND$kmEIGHTIETHS%SIXTY-FOURTHS
$miTWENTIETH%SIXTEENTH-1%SIXTEENTH-2%TENTH%rr$kmTWENTIETHS%SIXTEENTHS$miFIFTH%pa%HALF-1%HALF-2$k
msw$DOWNSCALING FACTOR KIIZH#gNEL$CEVITU$AAZHAAKKU$UZHAKKU$MUUVUZHAKKU$KURUNI$PATHAKKU$MUKKURUNI
$KAACU$PANAM$PON$VARAAKAN$PAARAM$KUZHI$VELI#WET CULTIVATIONg#DRY CULTIVATIONg#LANDg#SALT PANg#TR
ADITIONAL CREDITg$ngg#CURRENTg#kxODDg#SPENTg#TOTALg#IN POSSESSIONg#STARTINGvfg#gMUTHALIYA$VAKAIY
ARAA@11FFF#lsEND OF TEXT!CUNEIFORMgA%liA&BAD&GAN2th&HA&IGI&LAGARrs&MUSH&SAG$A2$AB%liASH2&DUN3rs&
GAL&GAN2th&HA&IGIrs&IMIN&LAGAB&SHESH&UmnUmnU%rs$AB2%liBALAG&GAN2th&MEmnEN&SHA3&TAK4$AD$AK%liERIN
2&SHITAmnGISH$AL%liAL&DIM2&GISH&HA&KAD3&KI&SHE&USH$ALAN$xt$AMAR%liSHE$AN%nmAN%kmli%mnNAGA OPPOSI
NG ANmnNAGA(oq$ANSHE$APIN$ARAD%liKUR$ARKAB$ASAL2$zb%ZIDAth%KABAth%nmzbTUG2nmTUG2 TUG2nmTUG2 PAP(
nmzb*ogzbnmzbnmzb$ASH2$ASHGAB$BA$BAD$BAG3$BAHAR2$BAL%nmBAL$BALAG$pq$BARA2$BI%liA&GAR&IGIrs$BU%nm
BU AB(UN%ogBU$BULUG%nmBULUG$BUR$BUR2$DA$DAG%KISIM5liAmnMASH(AMAR(BALAG(BI(GA)mnMASH(GI(GIR2(GUD(
HA(IR)mnLU(KAK(LA(LU)mnMASH2(LUM(NE(PAPmnPAP(SI(TAK4(U2mnGIR2(USH$DAM$DAR$DARA3$DARA4$DI$DIB$DIM
%liSHE$DIM2$DIN%zgUrszd$zd$DU%nmDU%rs%SHESHIG$DUB%liESH2$DUB2$DUG$DUGUD$DUH$DUN$DUN3%rs&rs$DUN4$
DUR2$E%liPAP%nmEylnmyl$E2%liAmnHAmnDA&GAR&MI&SAL&SHE&U$EDIN$EGIR$EL$EN%liGAN2(th&ME%ogEN%OPPOSIN
G EN%oq$EREN$ERIN2$ESH2$EZEN%liA(mnLAL*liLAL&AN&BAD&DUN3rs)rs&HA(rs&IGIrs&zg(oq&KU3&LA&LALliLAL&
LI&LU&U2&UD$GA%rs$GA2%liAmnDAmnHA)HA)IGI&AB2thmnTAB&AN&zb&ASH2mnGAL&BAD&pqmnRA&BUR(mnRA&DA&DI&DI
MliSHE&DUB&EL(mnLA&EN(liGAN2th&GAN2th&GAR&GI&GI4(mnA&GIR2mnSU&HAmnLUmnESH2&HAL(mnLA&HImnLI&HUB2&
IGIrs&ISHmnHUmnzb&KAK&zg&KID(mnLAL&KU3mnAN&LA&MEmnEN&MI&yl(nmyl&PA&SAL&SAR&SHE(mnTUR&SHID&SUM&TA
K4&U&UD(mnDU%nmGA2$GABA%ogGABA$GAD%nmGAD GARnmGAR$GAL%GADnmGAD GARnmGAR$GALAM$GAM$GAN$GAN2%th%nm
GAN2%ogGAN2$GAR$GAR3$GASHAN$GESHTIN%liKUR$GI%liE&U%ogGI$GI4%nmGI4%ogGI4$GIDIM$GIR2%rs$GIR3%liAmn
IGI&GAN2th&IGI&LUmnIGI&PA$GISAL$GISH%ogGISH%liBAD&TAK4%th$GU%ogGU$GU2%liKAK(liIGIrs&yl&SALmnTUG2
%rs$GUD%liAmnKUR&KUR%nmGUD LUGAL$GUL$GUM%liSHE$GUR$GUR7$GURUN$GURUSH$HA%th%rs$HAL$HI%lizb&ASH2&B
AD&zd&GAD&KIN&yl&SHE&U$HU$HUB2%liAN&HAL&zg&LISH&UD$HUL2$I%A$IB$IDIM%nmIDIM BUR(oq$IG$IGI%DIB%RI%
nmIGI SHIRnmSHIR UDnmUD%rs$IL%liGAN2th$IL2$IM%liTAK4%ogIM%OPPOSING IM%oq$IMIN$IN$IR$ISH$KA%liA&A
D(mnKU3&ASH2&BAD&BALAG&pq&BI&ERIN2&ESH2&GA&GAL&GAN2th&GAR(mnSHA3mnA&GI&GIR2&GISHmnSAR(ogGISH&GU&
GUR7&IGI&IM&KAK&KI&KID&LI&LU&ME(mnDU)GI)TE&MI(mnNUNUZ&NE&yl&PI&RU&SA&SAR&tt&SHE&SHID&SHU&SIG&SUH
UR&TAR&U&U2&UD&UMUMliPA&USH&ZI$KA2%ogKA2$KAB$KAD2$KAD3$KAD4$KAD5%nmKAD5$KAK%liIGIrs$KAL%liBAD%og
KAL$KAM2$KAM4$zg%LAGABliUnmLAGABliU%nmzgLAGABliUnmLAGABliU$KESH2$KI%liBAD&U&UD$KID$KIN$KISAL$KIS
H$KISIM5%nmKISIM5$KU%nmHIliASH2 KUnmHIliASH2$KU3$KU4%rqe$KU7$KUL%rs$KUN$KUR%OPPOSING KUR$KUSHU2$
KWU318$LA$LAGAB%liA(mnDAmnHA)GAR)LAL&AL&AN&zbZIDAth&BAD&BI&DAR&EN&GA&GAR&GUD(mnGUD&HA&HAL&HIliyl
&IGIrs&IM(mnHA)LU&KI&KIN&KU3&KUL(mnHImnA&LAGAB&LISH&LU&LUL&ME(mnEN&MUSH&NE&SHEmnSUM&SHITAmnGISHm
nERIN2*th&SHU2(mnSHU2&SUM&TAG&TAK4&TEmnAmnSUmnNA&U(mnA)UmnU&U2mnzb&UD&USH%oq$LAGAR%liSHE(mnSUM%r
s&nmLAGARrsSHE$LAHSHU$LAL%liLAL$LAM%liKUR(mnRU$LI$LIL$LIMMU2$LISH$LU%liBAD$LU2%liAL&BAD&ESH2(th&
GAN2th&HIliBAD&IM&KAD2&KAD3(mnzb&KI&LAmnzb&LAGAB&MEmnEN&NE&NU&SImnzb&SIK2mnBU&TUG2%th%ogLU2%OPPO
SING LU2%oq%SHESHIG$LU3$LUGAL%nmLUGAL%OPPOSING LUGAL%SHESHIG$LUH$LUL$LUM%nmLUM(GARnmGAR$MA%liTAK
4%rs$MA2$MAH$MAR$MASH$MASH2$ME$MES$MI$MIN$MU%nmMU$MUG%rs$MUNSUB$MURGU2$MUSH%liA&KUR&ZA%nmMUSH(li
AmnNA%ogMUSH$MUSH3%liA(mnDI&DI%rs$NA$NA2$NAGA%lq%liSHUth%OPPOSING NAGA$NAGAR$NAM NUTILLU%$NAM2$N
E%liA&UD%SHESHIG$NI%liE$NI2$NIM%liGAN2th&GARmnGAN2th$NINDA2%liAN&zb(mnzb&GUD&MEmnGAN2th&NE&yl&SH
E(mnA AN)zb*mnzb&U2mnzb&USH$NISAG$NU$NU11$yl%LAGARliGAR(MASH(SAL)nmylLAGARliSAL(USH%th%nmyl%ogyl
(LAGARnmLAGAR$NUNUZ%AB2liASHGAB(BI(DUG(GUD(IGIrs(KAD3(LA(NE(SILA3(U2%KISIM5liBI)U$PA$PAD$PAN$PAP
$PESH2$PI%liA&AB&BI&BU&E&I&IB&U&U2%ogPI$PIRIG%liKAL&UD&ZA%OPPOSING PIRIG$RA$RAB$RI$RU$SA$SAG NUT
ILLU%%liA&DU&DUB&HA&KAK&KUR&LUM&MI&yl&SAL&SHID&TAB&U2&UB&UM&UR&USH%nmSAG%rs$SAL%LAGABliASH2$SANG
A2$SAR$tt$SHA3%liA&BAD&GISH&NE&SHU2&TUR&U(mnA$SHA6$SHAB6$SHAR2$SHE%HU%nmSHE GADnmGAD GARnmGAR(TA
BnmTAB GARnmGAR$SHEG9$SHEN$SHESH$SHESH2$SHESHLAM$SHID%liA&IM$SHIM%liA&BAL&BULUG&DIN&GAR&IGI(rs&K
USHU2&LUL&MUG&SAL$SHINIG$SHIR%th%nmSHIR BURnmBUR$SHITA$SHU%nmlqSHU$SHU2$SHUBUR$SI%rs$SIG$SIG4%nm
SIG4 SHU2$SIK2$SILA3$SU%nmSU$SUD$SUD2$SUHUR$SUM$SUMASH$SUR$SUR9$TA%mx%liHI&MI%rs$TAB%nmTAB NInmN
Izdnmzd%oq$TAG%liBI&GUD&SHE&SHU&TUG2&UD$TAK4$TAR$TE%rs$TI%th$TIL$TIR%liTAK4%nmTIR(GADnmGAD GARnm
GAR$TU$TUG2$TUK$TUM$TUR%nmTUR ZAnmZA$U%GUD%U U%nmU PAnmPA GARnmGAR(SURnmSUR(UlgnmUlg$U2$UB$UD%KU
SHU2%liBAD&MI&UmnUmnU,rs%rs%SHESHIG&liBAD$UDUG$UM%liLAGAB&MEmnDA&SHA3&U$UMBIN$UMUM%lizg&PA$UN%rs
$UR%ogUR%SHESHIG$UR2%liAmnHA)NA&AL&HA&yl&U2(mnzb)BI$UR4$URI$URI3$URU%liA&ASHGAB&pq&DUN&GA&GAL&GA
N2th&GAR&GU&HA&IGI&IM&ISH&KI&LUM&MIN&PA&SHE&SIG4&TU&UmnGUD&UD&URUDA$URUDA%liU$USH%liA&KU&KUR&TAK
4$USHX$USH2$USHUMX$UTUKI$UZ3%lizg$UZU$ZA%th%oqliKUR$ZAG$ZAMX$ZE2$ZI%nmZI$ZI3$ZIB%KABAth$ZIG$ZIZ2
$ZU$ZU5%liA$ZUBUR$ZUM$KAP ELAMITE$ABliyl$AB2liA$AMARliKUG$DAG KISIM5liU2mnMASH$DAG3$zdmnSHU$DUBl
iSHE$EZENliGUD&SHE$GA2liANmnKAKmnA&ASH2$GE22$GIG$HUSH$KAliANSHE&ASH3&GISH&GUD&HIliASH2&LUM&PA&SH
UL&TU&UR2$LAGABliGI$LU2 SHESHIGliBAD%liESH2mnLAL&SHU$MESH$MUSH3liZA$NA4$NIN$NIN9$NINDA2liBAL&GI$
NU11mfppnd$PESH2mx$PIR2$SAGliIGIrs$TI2$UMliME$U U@12400#NUMERICgmdzb%kmzb%ljzb%lozb%plzb%lkzb%lh
zb%mzzb%kmzd%ljzd%lozd%plzd%lkzd%lhzd%mzzd%ljU%loU%plU%lkU%lhU%mzU%miGESH2%mdGESH2%kmGESH2%ljGES
H2%loGESH2%plGESH2%lkGESH2%lhGESH2%mzGESH2%miGESHU%mdGESHU%kmGESHU%ljGESHU%loGESHU%mdSHAR2%kmSHA
R2(rqe%ljSHAR2%loSHAR2%plSHAR2%lkSHAR2%lhSHAR2%mzSHAR2%miSHARU%mdSHARU%kmSHARU(rqe%ljSHARU%loSHA
RU%SHAR2liGALmnzd*MIN%miBURU%mdBURU%kmBURU(rqe%ljBURU%loBURU%kmrqeESH16)ESH21%ljrqeLIMMU)LIMMU4)
LIMMU A*B%plrqeASH9%lkrqeIMIN3)IMIN A*B%lhrqeUSSU)USSU3%mzrqeILIMMU)ILIMMU3)ILIMMU4)ILIMMU A%mdz
bth%kmzbth%ljzbth%lozbth%plzbth%miBAN2%mdBAN2%kmBAN2%ljBAN2(rqe%loBAN2(rqe%NIGIDAMIN%NIGIDAESH%m
iESHE3%mdESHE3%miTHIRDzd%mdTHIRDSzd%loSIXTHSzd%miTHIRDrqeA%mdTHIRDSrqeA%mirrzb&pazb%wqASSYRIANmi
SIXTH)pa%mipaGUR&mrGUR%ELAMITEmiTHIRD&mdTHIRDS&ww&sa%ljUrqe%loUrqe%plUrqe%lkUrqe%lhUrqe%mzUrqe@1
2470#lsgwqASSYRIAN WORD DIVIDER%kdsi%ncsi&TRICOLON&QUADCOLON@12480#gABliylth&SHU2$ADliESH2$BADli
zdth$BAHAR2liAB2&NI&ZA$BUnmBUliNA2$DAliTAK4$DAGliKUR$DIMliIGI&U U U$DIM2liUD$DUGliANSHE&zb(ATkk&
DIN&DUN&ERIN2&GA&GI&GIR2rs&GISH&HA&HI&IGIrs&zg&KUR&KUSHU2(mnzg&LAK-020&LAM(liKUR&LUHmnGISH&MASH&
MES&MI&NI&PI&SHE&SIrs$E2liKUR&PAP$ERIN2 X$ESH2ogESH2$EZEN SHESHIGlizb(HI(IGIrs(LA(LAL(ME(MES(SU%
liSU$GA2liBAHAR2&DIMrs&DUGliIGIrs)zg&EREN&GA&GARmnDI)NE&HAmnA&KUSHU2mnzg&LAM(liKUR&LUH&MUSH&NE(m
nE2)GI&SHIM&ZIZ2$GABAmfppnd$GESHTINliU$GISHliGISHogGISH$GU2liIGIrs$GUDmnGISHliTAK4$HAthrs$HIlizb
nmHIlizb$KAliBU&KA&U U U&UR$LAGABliZUnmZU$LAK-003$LAK-021$LAK-025$LAK-030$LAK-050$LAK-051$LAK-06
2$LAK-079nmLAK-079rs$LAK-080$LAK-081nmLAK-081$LAK-092$LAK-130$LAK-142$LAK-210$LAK-219$LAK-220$LA
K-225$LAK-228$LAK-238$LAK-265$LAK-266$LAK-343$LAK-347$LAK-348$LAK-383$LAK-384$LAK-390$LAK-441$LA
K-449%liGU&IGI&PAPmnLU3)PAPmnLU3&U2mnBA$LAK-450$LAK-457$LAK-470$LAK-483$LAK-490$LAK-492$LAK-493$
LAK-495$LAK-550$LAK-608$LAK-617%lizb&BAD&DUN3rsrs&KU3&LA&TAR&TE&U2&UD&URUDA$LAK-636$LAK-648%liDU
B&GA&IGI(rs&NI&PAPmnPAPmnLU3&SHESHmnKI&UD&URUDA$LAK-724$LAK-749$LU2rslizb%lizd&HAL&PAP(mnPAPmnLU
3&TAK4$MImnZA7$MUSHnmMUSHliGA)KAK$NINDA2liDIMrs&GISH&GUL&HI&KESH2&LAK-050&MASH&PAPmnPAP&U(mnU&UR
UDA$SAGrsliHA%liEN&SHE ATkk&TAK4$SHA6th$SHEnmSHE%mnHUB2&NAM2&SAR$SHU2mnDUGliNI&E2liAN$SIliTAK4$T
AK4mnSAG$TUMliGAN2th&kmzd$UR2lq%liUD$URUliDARA3&LAK-668&LU3$ZA7$ZUnmZUmnSAR$ZU5likmzdth@12F90!CY
PRO-MINOANgCM001$CM002$CM004$CM005$CM006$CM007$CM008$CM009$CM010$CM011$CM012$CM012B$CM013$CM015$
CM017$CM019$CM021$CM023$CM024$CM025$CM026$CM027$CM028$CM029$CM030$CM033$CM034$CM035$CM036$CM037$
CM038$CM039$CM040$CM041$CM044$CM046$CM047$CM049$CM050$CM051$CM052$CM053$CM054$CM055$CM056$CM058$
CM059$CM060$CM061$CM062$CM063$CM064$CM066$CM067$CM068$CM069$CM070$CM071$CM072$CM073$CM074$CM075$
CM075B$CM076$CM078$CM079$CM080$CM081$CM082$CM083$CM084$CM085$CM086$CM087$CM088$CM089$CM090$CM091
$CM092$CM094$CM095$CM096$CM097$CM098$CM099$CM100$CM101$CM102$CM103$CM104$CM105$CM107$CM108$CM109
$CM110$CM112$CM114$CM301$CM302@13000!EGYPTIAN HIEROGLYPH A001$A002$A003$A004$A005$A005A$A006$A00
6A$A006B$A007$A008$A009$A010$A011$A012$A013$A014$A014A$A015$A016$A017$A017A$A018$A019$A020$A021$
A022$A023$A024$A025$A026$A027$A028$A029$A030$A031$A032$A032A$A033$A034$A035$A036$A037$A038$A039$
A040$A040A$A041$A042$A042A$A043$A043A$A044$A045$A045A$A046$A047$A048$A049$A050$A051$A052$A053$A0
54$A055$A056$A057$A058$A059$A060$A061$A062$A063$A064$A065$A066$A067$A068$A069$A070$B001$B002$B00
3$B004$B005$B005A$B006$B007$B008$B009$C001$C002$C002A$C002B$C002C$C003$C004$C005$C006$C007$C008$
C009$C010$C010A$C011$C012$C013$C014$C015$C016$C017$C018$C019$C020$C021$C022$C023$C024$D001$D002$
D003$D004$D005$D006$D007$D008$D008A$D009$D010$D011$D012$D013$D014$D015$D016$D017$D018$D019$D020$
D021$D022$D023$D024$D025$D026$D027$D027A$D028$D029$D030$D031$D031A$D032$D033$D034$D034A$D035$D03
6$D037$D038$D039$D040$D041$D042$D043$D044$D045$D046$D046A$D047$D048$D048A$D049$D050$D050A$D050B$
D050C$D050D$D050E$D050F$D050G$D050H$D050I$D051$D052$D052A$D053$D054$D054A$D055$D056$D057$D058$D0
59$D060$D061$D062$D063$D064$D065$D066$D067$D067A$D067B$D067C$D067D$D067E$D067F$D067G$D067H$E001$
E002$E003$E004$E005$E006$E007$E008$E008A$E009$E009A$E010$E011$E012$E013$E014$E015$E016$E016A$E01
7$E017A$E018$E019$E020$E020A$E021$E022$E023$E024$E025$E026$E027$E028$E028A$E029$E030$E031$E032$E
033$E034$E034A$E036$E037$E038$F001$F001A$F002$F003$F004$F005$F006$F007$F008$F009$F010$F011$F012$
F013$F013A$F014$F015$F016$F017$F018$F019$F020$F021$F021A$F022$F023$F024$F025$F026$F027$F028$F029
$F030$F031$F031A$F032$F033$F034$F035$F036$F037$F037A$F038$F038A$F039$F040$F041$F042$F043$F044$F0
45$F045A$F046$F046A$F047$F047A$F048$F049$F050$F051$F051A$F051B$F051C$F052$F053$G001$G002$G003$G0
04$G005$G006$G006A$G007$G007A$G007B$G008$G009$G010$G011$G011A$G012$G013$G014$G015$G016$G017$G018
$G019$G020$G020A$G021$G022$G023$G024$G025$G026$G026A$G027$G028$G029$G030$G031$G032$G033$G034$G03
5$G036$G036A$G037$G037A$G038$G039$G040$G041$G042$G043$G043A$G044$G045$G045A$G046$G047$G048$G049$
G050$G051$G052$G053$G054$H001$H002$H003$H004$H005$H006$H006A$H007$H008$I001$I002$I003$I004$I005$
I005A$I006$I007$I008$I009$I009A$I010$I010A$I011$I011A$I012$I013$I014$I015$K001$K002$K003$K004$K0
05$K006$K007$K008$L001$L002$L002A$L003$L004$L005$L006$L006A$L007$L008$M001$M001A$M001B$M002$M003
$M003A$M004$M005$M006$M007$M008$M009$M010$M010A$M011$M012$M012A$M012B$M012C$M012D$M012E$M012F$M0
12G$M012H$M013$M014$M015$M015A$M016$M016A$M017$M017A$M018$M019$M020$M021$M022$M022A$M023$M024$M0
24A$M025$M026$M027$M028$M028A$M029$M030$M031$M031A$M032$M033$M033A$M033B$M034$M035$M036$M037$M03
8$M039$M040$M040A$M041$M042$M043$M044$N001$N002$N003$N004$N005$N006$N007$N008$N009$N010$N011$N01
2$N013$N014$N015$N016$N017$N018$N018A$N018B$N019$N020$N021$N022$N023$N024$N025$N025A$N026$N027$N
028$N029$N030$N031$N032$N033$N033A$N034$N034A$N035$N035A$N036$N037$N037A$N038$N039$N040$N041$N04
2$NL001$NL002$NL003$NL004$NL005$NL005A$NL006$NL007$NL008$NL009$NL010$NL011$NL012$NL013$NL014$NL0
15$NL016$NL017$NL017A$NL018$NL019$NL020$NU001$NU002$NU003$NU004$NU005$NU006$NU007$NU008$NU009$NU
010$NU010A$NU011$NU011A$NU012$NU013$NU014$NU015$NU016$NU017$NU018$NU018A$NU019$NU020$NU021$NU022
$NU022A$O001$O001A$O002$O003$O004$O005$O005A$O006$O006A$O006B$O006C$O006D$O006E$O006F$O007$O008$
O009$O010$O010A$O010B$O010C$O011$O012$O013$O014$O015$O016$O017$O018$O019$O019A$O020$O020A$O021$O
022$O023$O024$O024A$O025$O025A$O026$O027$O028$O029$O029A$O030$O030A$O031$O032$O033$O033A$O034$O0
35$O036$O036A$O036B$O036C$O036D$O037$O038$O039$O040$O041$O042$O043$O044$O045$O046$O047$O048$O049
$O050$O050A$O050B$O051$P001$P001A$P002$P003$P003A$P004$P005$P006$P007$P008$P009$P010$P011$Q001$Q
002$Q003$Q004$Q005$Q006$Q007$R001$R002$R002A$R003$R003A$R003B$R004$R005$R006$R007$R008$R009$R010
$R010A$R011$R012$R013$R014$R015$R016$R016A$R017$R018$R019$R020$R021$R022$R023$R024$R025$R026$R02
7$R028$R029$S001$S002$S002A$S003$S004$S005$S006$S006A$S007$S008$S009$S010$S011$S012$S013$S014$S0
14A$S014B$S015$S016$S017$S017A$S018$S019$S020$S021$S022$S023$S024$S025$S026$S026A$S026B$S027$S02
8$S029$S030$S031$S032$S033$S034$S035$S035A$S036$S037$S038$S039$S040$S041$S042$S043$S044$S045$S04
6$T001$T002$T003$T003A$T004$T005$T006$T007$T007A$T008$T008A$T009$T009A$T010$T011$T011A$T012$T013
$T014$T015$T016$T016A$T017$T018$T019$T020$T021$T022$T023$T024$T025$T026$T027$T028$T029$T030$T031
$T032$T032A$T033$T033A$T034$T035$T036$U001$U002$U003$U004$U005$U006$U006A$U006B$U007$U008$U009$U
010$U011$U012$U013$U014$U015$U016$U017$U018$U019$U020$U021$U022$U023$U023A$U024$U025$U026$U027$U
028$U029$U029A$U030$U031$U032$U032A$U033$U034$U035$U036$U037$U038$U039$U040$U041$U042$V001$V001A
$V001B$V001C$V001D$V001E$V001F$V001G$V001H$V001I$V002$V002A$V003$V004$V005$V006$V007$V007A$V007B
$V008$V009$V010$V011$V011A$V011B$V011C$V012$V012A$V012B$V013$V014$V015$V016$V017$V018$V019$V020$
V020A$V020B$V020C$V020D$V020E$V020F$V020G$V020H$V020I$V020J$V020K$V020L$V021$V022$V023$V023A$V02
4$V025$V026$V027$V028$V028A$V029$V029A$V030$V030A$V031$V031A$V032$V033$V033A$V034$V035$V036$V037
$V037A$V038$V039$V040$V040A$W001$W002$W003$W003A$W004$W005$W006$W007$W008$W009$W009A$W010$W010A$
W011$W012$W013$W014$W014A$W015$W016$W017$W017A$W018$W018A$W019$W020$W021$W022$W023$W024$W024A$W0
25$X001$X002$X003$X004$X004A$X004B$X005$X006$X006A$X007$X008$X008A$Y001$Y001A$Y002$Y003$Y004$Y00
5$Y006$Y007$Y008$Z001$Z002$Z002A$Z002B$Z002C$Z002D$Z003$Z003A$Z003B$Z004$Z004A$Z005$Z005A$Z006$Z
007$Z008$Z009$Z010$Z011$Z012$Z013$Z014$Z015$Z015A$Z015B$Z015C$Z015D$Z015E$Z015F$Z015G$Z015H$Z015
I$Z016$Z016A$Z016B$Z016C$Z016D$Z016E$Z016F$Z016G$Z016H$AA001$AA002$AA003$AA004$AA005$AA006$AA007
$AA007A$AA007B$AA008$AA009$AA010$AA011$AA012$AA013$AA014$AA015$AA016$AA017$AA018$AA019$AA020$AA0
21$AA022$AA023$AA024$AA025$AA026$AA027$AA028$AA029$AA030$AA031$AA032@13430$kdJOINER$kiJOINER$INS
ERT AT TOP START&qnSTART&TOP END&qnEND$rekr$BEGIN SEGMENT$END SEGMENT@14400!ANATOLIAN HIEROGLYP
H A001$A002$A003$A004$A005$A006$A007$A008$A009$A010$A010A$A011$A012$A013$A014$A015$A016$A017$A01
8$A019$A020$A021$A022$A023$A024$A025$A026$A026A$A027$A028$A029$A030$A031$A032$A033$A034$A035$A03
6$A037$A038$A039$A039A$A040$A041$A041A$A042$A043$A044$A045$A045A$A046$A046A$A046B$A047$A048$A049
$A050$A051$A052$A053$A054$A055$A056$A057$A058$A059$A060$A061$A062$A063$A064$A065$A066$A066A$A066
B$A066C$A067$A068$A069$A070$A071$A072$A073$A074$A075$A076$A077$A078$A079$A080$A081$A082$A083$A08
4$A085$A086$A087$A088$A089$A090$A091$A092$A093$A094$A095$A096$A097$A097A$A098$A098A$A099$A100$A1
00A$A101$A101A$A102$A102A$A103$A104$A104A$A104B$A104C$A105$A105A$A105B$A106$A107$A107A$A107B$A10
7C$A108$A109$A110$A110A$A110B$A111$A112$A113$A114$A115$A115A$A116$A117$A118$A119$A120$A121$A122$
A123$A124$A125$A125A$A126$A127$A128$A129$A130$A131$A132$A133$A134$A135$A135A$A136$A137$A138$A139
$A140$A141$A142$A143$A144$A145$A146$A147$A148$A149$A150$A151$A152$A153$A154$A155$A156$A157$A158$
A159$A160$A161$A162$A163$A164$A165$A166$A167$A168$A169$A170$A171$A172$A173$A174$A175$A176$A177$A
178$A179$A180$A181$A182$A183$A184$A185$A186$A187$A188$A189$A190$A191$A192$A193$A194$A195$A196$A1
97$A198$A199$A200$A201$A202$A202A$A202B$A203$A204$A205$A206$A207$A207A$A208$A209$A209A$A210$A211
$A212$A213$A214$A215$A215A$A216$A216A$A217$A218$A219$A220$A221$A222$A223$A224$A225$A226$A227$A22
7A$A228$A229$A230$A231$A232$A233$A234$A235$A236$A237$A238$A239$A240$A241$A242$A243$A244$A245$A24
6$A247$A248$A249$A250$A251$A252$A253$A254$A255$A256$A257$A258$A259$A260$A261$A262$A263$A264$A265
$A266$A267$A267A$A268$A269$A270$A271$A272$A273$A274$A275$A276$A277$A278$A279$A280$A281$A282$A283
$A284$A285$A286$A287$A288$A289$A289A$A290$A291$A292$A293$A294$A294A$A295$A296$A297$A298$A299$A29
9A$A300$A301$A302$A303$A304$A305$A306$A307$A308$A309$A309A$A310$A311$A312$A313$A314$A315$A316$A3
17$A318$A319$A320$A321$A322$A323$A324$A325$A326$A327$A328$A329$A329A$A330$A331$A332A$A332B$A332C
$A333$A334$A335$A336$A336A$A336B$A336C$A337$A338$A339$A340$A341$A342$A343$A344$A345$A346$A347$A3
48$A349$A350$A351$A352$A353$A354$A355$A356$A357$A358$A359$A359A$A360$A361$A362$A363$A364$A364A$A
365$A366$A367$A368$A368A$A369$A370$A371$A371A$A372$A373$A374$A375$A376$A377$A378$A379$A380$A381$
A381A$A382$A383 RA OR RI$A383A$A384$A385$A386$A386A$A387$A388$A389$A390$A391$A392$A393lh$A394$A3
95$A396$A397$A398$A399$A400$A401$A402$A403$A404$A405$A406$A407$A408$A409$A410 BEGIN LOGOGRAMkz$A
410A END LOGOGRAMkz$A411$A412$A413$A414$A415$A416$A417$A418$A419$A420$A421$A422$A423$A424$A425$A
426$A427$A428$A429$A430$A431$A432$A433$A434$A435$A436$A437$A438$A439$A440$A441$A442$A443$A444$A4
45$A446$A447$A448$A449$A450$A450A$A451$A452$A453$A454$A455$A456$A457$A457A$A458$A459$A460$A461$A
462$A463$A464$A465$A466$A467$A468$A469$A470$A471$A472$A473$A474$A475$A476$A477$A478$A479$A480$A4
81$A482$A483$A484$A485$A486$A487$A488$A489$A490$A491$A492$A493$A494$A495$A496$A497$A501$A502$A50
3$A504$A505$A506$A507$A508$A509$A510$A511$A512$A513$A514$A515$A516$A517$A518$A519$A520$A521$A522
$A523$A524$A525$A526$A527$A528$A529$A530@16800!BAMUMaPHASE-A NGKUE MFON%GBIEE FON%PON MFON PIPAE
MGBIEE(PIPAEMBA%NAA MFON%SHUENSHUET%TITA MFON%NZA MFON%SHINDA PA NJI%PON PA NJI PIPAEMGBIEE)PIPA
EMBA%MAEMBGBIEE%TU MAEMBA%NGANGU%MAEMVEUX%MANSUAE%MVEUAENGAM%SEUNYAM%NTOQPEN%KEUKEUTNDA%NKINDI%S
UU%NGKUENZEUM%LAPAQ%LET KUT%NTAP MFAA%MAEKEUP%PASHAE%GHEUAERAE%PAMSHAE%MON NGGEUAET%NZUN MEUT%
U YUQ NAE%GHEUAEGHEUAE%NTAP NTAA%SISA%MGBASA%MEUNJOMNDEUQ%MOOMPUQ%KAFA%PA LEERAEWA%NDA LEERAEWA%
PET%MAEMKPEN%NIKA%PUP%TUAEP%LUAEP%SONJAM%TEUTEUWEN%MAENYI%KET%NDAANGGEUAET%KUOQ%MOOMEUT%SHUM%LOM
MAE%FIRI%ROM%KPOQ%SOQ%MAP PIEET%SHIRAE%NTAP%SHOQ NSHUT YUM%NYIT MONGKEUAEQ%PAARAE%NKAARAE%UNKNOW
N%NGGEN%MAESI%NJAM%MBANYI%NYET%TEUAEN%SOT%PAAM%NSHIEE%MAEM%NYI%KAQ%NSHA%VEE%LU%NEN%NAQ%MBAQ$PHAS
E-B NSHUET%TU MAEMGBIEE%SIEE%SET TU%LOM NTEUM%MBA MAELEE%KIEEM%YEURAE%MBAARAE%KAM%PEESHI%YAFU LE
ERAEWA%LAM NSHUT NYAM%NTIEE SHEUOQ%NDU NJAA%GHEUGHEUAEM%PIT%TU NSIEE%SHET NJAQ%SHEUAEQTU%MFON TE
UAEQ%MBIT MBAAKET%NYI NTEUM%KEUPUQ%GHEUGHEN%KEUYEUX%LAANAE%PARUM%VEUM%NGKINDI MVOP%NGGEU MBU%WUA
ET%SAKEUAE%TAAM%MEUQ%NGGUOQ&ns%MFIYAQ%SUE%MBEURI%MONTIEEN%NYAEMAE%PUNGAAM%MEUT NGGEET%FEUX%MBUOQ
%FEE%KEUAEM%MA NJEUAENA&NJUQA%LET%NGGAAM%NSEN%MA%KIQ%NGOM$PHASE-C NGKUE MAEMBA%NZA%YUM%WANGKUOQ%
NGGEN%NDEUAEREE%NGKAQ%GHARAE%MBEEKEET%GBAYI%NYIR MKPARAQ MEUN%NTU MBIT%MBEUM%PIRIEEN%NDOMBU%MBA
A CABBAGE-TREE%KEUSHEUAEP%GHAP%KEUKAQ%YU MUOMAE%NZEUM%MBUE%NSEUAEN%MBIT%YEUQ%KPARAQ%KAA%SEUX%NDI
DA%TAASHAE%NJUEQ%TITA YUE%SUAET%NGGUAEN NYAM%VEUX%NANSANAQ%MA KEUAERI%NTAA%NGGUON%LAP%MBIRIEEN%M
GBASAQ%NTEUNGBA%TEUTEUX%NGGUM%FUE%NDEUT%NSA%NSHAQ%BUNG%VEUAEPEN%MBERAE%RU%NJAEM%LAM%TITUAEP%NSUO
T NGOM%NJEEEE%KET%NGGU%MAESI%MBUAEM%LU%KUT%NJAM%NGOM%WUP%NGGUEET%NSOM%NTEN%KUOP NKAARAE%NSUN%NDA
M%MA NSIEE%YAA%NDAP%SHUEQ%SETFON%MBI%MAEMBA%MBANYI%KEUSEUX%MBEUX%KEUM%MBAA PICKET%YUWOQ%NJEUX%MI
EE%MUAE%SHIQ%KEN LAW&FATIGUE%NGAQ%NAQ%LIQ%PIN%PEN%TET$PHASE-D MBUO%WAP%NJI%MFON%NJIEE%LIEE%NJEUT
%NSHEE%NGGAAMAE%NYAM%WUAEN%NGKUN%SHEE%NGKAP%KEUAETMEUN%TEUT%SHEUAE%NJAP%SUE%KET%YAEMMAE%KUOM%SAP
%MFEUT%NDEUX%MALEERI%MEUT%SEUAEQ%YEN%NJEUAEM%KEUOT MBUAE%NGKEURI%TU%GHAA%NGKYEE%FEUFEUAET%NDEE%M
GBOFUM%LEUAEP%NDON%MONI%MGBEUN%PUUT%MGBIEE%MFO%LUM%NSIEEP%MBAA%KWAET%NYET%TEUAEN%SOT%YUWOQ%KEUM%
RAEM%TEEEE%NGKEUAEQ%MFEUAE%NSIEET%KEUP%PIP%PEUTAE%NYUE%LET%NGGAAM%MFIEE%NGGWAEN%YUOM%PAP%YUOP%ND
AM%NTEUM%SUAE%KUN%NGGEUX%NGKIEE%TUOT%MEUN%KUQ%NSUM%TEUN%MAENJET%NGGAP%LEUM%NGGUOM%NSHUT%NJUEQ%GH
EUAE%KU%RENwq%TAE%TOQ%NYI%RII%LEEEE%MEEEE%M%SUU%MU%SHII%SHEUX%KYEE%NU%SHU%NTEE%PEE%NI%SHOQ%PUQ%M
VOP%LOQ%REN MUCH%TI%NTUU%MBAAlk%SAQ%FAA$PHASE-E NDAP%TOON%MBEUM%LAP%VOM%LOON%PAA%SOM%RAQ%NSHUOP%
NDUN%PUAE%TAM%NGKA%KPEUX%WUO%SEE%NGGEUAET%PAAM%TOO%KUOP%LOM%NSHIEE%NGOP%MAEM%NGKEUX%NGOQ%NSHUE%R
IMGBA%NJEUX%PEEM%SAA%NGGURAE%MGBA%GHEUX%NGKEUAEM%NJAEMLI%MAP%LOOT%NGGEEEE%NDIQ%TAEN NTEUM%SET%PU
M%NDAA SOFTNESS%NGGUAESHAE NYAM%YIEE%GHEUN%TUAE%YEUAE%PO%TUMAE%KEUAE%SUAEN%TEUAEQ%VEUAE%WEUX%LAA
M%PU%TAAQ%GHAAMAE%NGEUREUT%SHEUAEQ%MGBEN%MBEE%NZAQ%NKOM%GBET%TUM%KUET%YAP%NYI CLEAVER%YIT%MFEUQ%
NDIAQ%PIEEQ%YUEQ%LEUAEM%FUE%GBEUX%NGKUP%KET%MAE%NGKAAMI%GHET%FA%NTUM%PEUT%YEUM%NGGEUAE%NYItb%NZU
Q%POON%MIEE%FUET%NAE%MUAE%GHEUAE%FU I%MVI%PUAQ%NGKUM%KUT%PIET%NTAP%YEUAET%NGGUP%PA PEOPLE%FU CAL
L%FOM%NJEE%A%TOQ%O%I%LAQ%PA PLURAL%TAA%TAQ%NDAA MY HOUSE%SHIQ%YEUX%NGUAE%YUAEN%YOQ SWIMMING&COVE
R%YUQ%YUN%KEUX%PEUX%NJEE EPOCH%PUE%WUE%FEE%VEE%LU%MI%REUX%RAE%NGUAET%ts%SHO%SHOQ%FU REMEDY%NA%PI
%LOQ%KO%MEN%MA%MAQ%TEU%KI%MON%ta%FAQ%GHOM$PHASE-F KA%U%KU%EE%REE%TAE%NYI%LA%RII%RIEE%MEEEE%TAA%N
DAA%NJAEM%M%SUU%SHII%SI%SEUX%KYEE%KET%NUAE%NU%NJUAE%YOQ%SHU%YA%NSHA%PEUX%NTEE%WUE%PEE%RU%NI%REUX
%KEN%NGKWAEN%NGGA%SHO%PUAE%FOM%WA%LI%LOQ%KO%MBEN%REN%MA%MO%MBAA%TET%KPA%SAMBA%VUEQ@16A40!MROaTA$
NGI$YO$MIM$BA$DA$A$PHI$KHAI$HAO$DAI$CHU$KEAAE$OL$MAEM$NIN$PA$OO$O$RO$SHI$THEA$EA$WA$E$KO$LAN$LA$
HAI$RI$TEK@16A60#mhok$mi$md$km$lj$lo$pl$lk$lh$mz@16A6E#sp#kbsp!TANGSAaOZ$OC$OQ$OX$AZ$AC$AQ$AX$VZ
$VC$VQ$VX$EZ$EC$EQ$EX$IZ$IC$IQ$IX$UZ$UC$UQ$UX$AWZ$AWC$AWQ$AWX$UIZ$UIC$UIQ$UIX$khNG$oxUEX$pjUEZ%A
WX$UEC$UEZ$UEQ$UEX$UIUZ$UIUC$UIUQ$UIUX$MZ$MC$MQ$MX$KA$uu$GA$ts$SA$YA$WA$PA$up$wl$BA$MA$NA$HA$LA$
HTA$TA$DA$RA$NHA$tt$CA$TSA$yk$HTTA$vs$XA$FA$yj$uk$ZA@16AC0#mhok$mi$md$km$lj$lo$pl$lk$lh$mz@16AD0
!BASSA VAHaENNI%KA%SE%FA%MBE%YIE%GAH%DHII%KPAH%JO%HWAH%WA%ZO%GBU%DO%CE%UWU%TO%BA%VU%YEIN%PA%WADD
A%A%O%OO%U%EE%E%I@16AF0$napmpb%sbpb%MIDpb%LOW-MIDpb%HIGH-LOWpb$rtpr@16B00!PAHAWH HMONGmcKEEB%KEE
V%KIB%KIV%KAUB%KAUV%KUB%KUV%KEB%KEV%KAIB%KAIV%KOOB%KOOV%KAWB%KAWV%KUAB%KUAV%KOB%KOV%KIAB%KIAV%KA
B%KAV%KWB%KWV%KAAB%KAAV$pgVAU%NTSAU%LAU%HAU%NLAU%RAU%NKAU%QHAU%YAU%HLAU%MAU%CHAU%NCHAU%HNAU%PLHA
U%NTHAU%NAU%AU%XAU%CAU$kzCIM TUB&SO&KES&KHAV&SUAM&HOM&TAUM$gVOS THOM&TSHAB CEEB%CIM CHEEM%VOS TH
IAB&FEEM%XYEEM NTXIV&RHO&TOV&FAIB%VOS SEEV%MEEJ SUAB%VOS NRUA%IB YAM%XAUS%CIM TSOV ROG@16B50$mho
k%mi%md%km%lj%lo%pl%lk%lh%mz@16B5B$ngTENS%HUNDREDS%taxp%MILLIONS%kpMILLIONS%taBILLIONS%TRILLIONS
@16B63$gVOS LUB%XYOO%HLI%THIRD-STAGE HLI%ZWJ THAJ%HNUB%NQIG%XIAB%NTUJ%AV%TXHEEJ CEEV%MEEJ TSEEB%
TAU%LOS%MUS%CIM HAIS LUS NTOG NTOG&CUAM TSHOOJ&TXWV(CHWV&PUB DAWB&NRES TOS@16B7D$CLANgTSHEEJ&YEE
G&LIS&LAUJ&XYOOJ&KOO&HAWJ&MUAS&THOJ&TSAB&PHAB&KHAB&HAM&VAJ&FAJ&YAJ&TSWB&KWM&VWJ@16E40!MEDEFAIDRI
NcaM%S%V%W%ATIU%Z%KP%P%T%G%F%I%K%A%J%E%B%C%U%YU%L%Q%HP%NY%X%D%OE%N%R%O%AI%Y#daM%S%V%W%ATIU%Z%KP%
P%T%G%F%I%K%A%J%E%B%C%U%YU%L%Q%HP%NY%X%D%OE%N%R%O%AI%Y#mhok$mi$md$km$lj$lo$pl$lk$lh$mz#ngta$ze$w
u$THIRTEEN$zv$xb$yw$xo$xx$zz#mhmipfe$mdpfe$kmpfe#of#rtpr#klAIVA#noOH@16F00!MIAOaPA$BA$YI PA$PLA$
MA$MHA$sgMA$FA$VA$VFA$TA$DA$YIxq%TA$xq$xw$NA$NHA$YIzi$sgNA$zi$NNHA$LA$LYA$LHA$LHYA$TLHA$DLHA$TLH
YA$DLHYA$KA$GA$YI KA$QA$QGA$ts$NGHA$sgts$HA$XA$yk$GHHA$TSSA$DZZA$up$NYHA$TSHA$DZHA$YI TSHA%DZHA$
REFORMED TSHA$tt$SSA$ZHA$ZSHA$TSA$DZA$YI TSA$SA$ZA$ZSA$ZZA$ZZSA$sgZZA$ZZYA$ZZSYA$WA$AH$HHA$BRI$S
YI$DZYI$TE$TSE$RTE@16F4F#gpgonpq#aNASALIZATION#gASPIRATION$REFORMED VOICING%ASPIRATION#mcgA%AA%A
HH%AN%ANG%O%OO%WO%W%E%EN%ENG%OEY%I%IA%IAN%IANG%IO%IE%II%IU%ING%U%UA%UAN%UANG%UU%UEI%UNG%Y%YI%AE%
AEE%ERR%yuERR%ER%yuER%AI%EI%AU%OU%N%NG%UOG%YUI%OG%OER%VW%IG%EA%IONG%UI@16F8F#pbh$TOPh$i$kg#aTONE
-2$TONE-3$TONE-4$TONE-5$TONE-6$TONE-7$TONE-8$REFORMED TONE-1%TONE-2%TONE-4%TONE-5%TONE-6%TONE-8@
16FE0!TANGUTwckz!NUSHUwckz!wqCHINESEllkz$wckz!KHITANdsdFILLER@16FF0!VIETNAMESEpfREADINGkzCA&NHAY
@18800!TANGUT COMPONENT-001#COMPONENT-002#COMPONENT-003#COMPONENT-004#COMPONENT-005#COMPONENT-00
6#COMPONENT-007#COMPONENT-008#COMPONENT-009#COMPONENT-010#COMPONENT-011#COMPONENT-012#COMPONENT-
013#COMPONENT-014#COMPONENT-015#COMPONENT-016#COMPONENT-017#COMPONENT-018#COMPONENT-019#COMPONEN
T-020#COMPONENT-021#COMPONENT-022#COMPONENT-023#COMPONENT-024#COMPONENT-025#COMPONENT-026#COMPON
ENT-027#COMPONENT-028#COMPONENT-029#COMPONENT-030#COMPONENT-031#COMPONENT-032#COMPONENT-033#COMP
ONENT-034#COMPONENT-035#COMPONENT-036#COMPONENT-037#COMPONENT-038#COMPONENT-039#COMPONENT-040#CO
MPONENT-041#COMPONENT-042#COMPONENT-043#COMPONENT-044#COMPONENT-045#COMPONENT-046#COMPONENT-047#
COMPONENT-048#COMPONENT-049#COMPONENT-050#COMPONENT-051#COMPONENT-052#COMPONENT-053#COMPONENT-05
4#COMPONENT-055#COMPONENT-056#COMPONENT-057#COMPONENT-058#COMPONENT-059#COMPONENT-060#COMPONENT-
061#COMPONENT-062#COMPONENT-063#COMPONENT-064#COMPONENT-065#COMPONENT-066#COMPONENT-067#COMPONEN
T-068#COMPONENT-069#COMPONENT-070#COMPONENT-071#COMPONENT-072#COMPONENT-073#COMPONENT-074#COMPON
ENT-075#COMPONENT-076#COMPONENT-077#COMPONENT-078#COMPONENT-079#COMPONENT-080#COMPONENT-081#COMP
ONENT-082#COMPONENT-083#COMPONENT-084#COMPONENT-085#COMPONENT-086#COMPONENT-087#COMPONENT-088#CO
MPONENT-089#COMPONENT-090#COMPONENT-091#COMPONENT-092#COMPONENT-093#COMPONENT-094#COMPONENT-095#
COMPONENT-096#COMPONENT-097#COMPONENT-098#COMPONENT-099#COMPONENT-100#COMPONENT-101#COMPONENT-10
2#COMPONENT-103#COMPONENT-104#COMPONENT-105#COMPONENT-106#COMPONENT-107#COMPONENT-108#COMPONENT-
109#COMPONENT-110#COMPONENT-111#COMPONENT-112#COMPONENT-113#COMPONENT-114#COMPONENT-115#COMPONEN
T-116#COMPONENT-117#COMPONENT-118#COMPONENT-119#COMPONENT-120#COMPONENT-121#COMPONENT-122#COMPON
ENT-123#COMPONENT-124#COMPONENT-125#COMPONENT-126#COMPONENT-127#COMPONENT-128#COMPONENT-129#COMP
ONENT-130#COMPONENT-131#COMPONENT-132#COMPONENT-133#COMPONENT-134#COMPONENT-135#COMPONENT-136#CO
MPONENT-137#COMPONENT-138#COMPONENT-139#COMPONENT-140#COMPONENT-141#COMPONENT-142#COMPONENT-143#
COMPONENT-144#COMPONENT-145#COMPONENT-146#COMPONENT-147#COMPONENT-148#COMPONENT-149#COMPONENT-15
0#COMPONENT-151#COMPONENT-152#COMPONENT-153#COMPONENT-154#COMPONENT-155#COMPONENT-156#COMPONENT-
157#COMPONENT-158#COMPONENT-159#COMPONENT-160#COMPONENT-161#COMPONENT-162#COMPONENT-163#COMPONEN
T-164#COMPONENT-165#COMPONENT-166#COMPONENT-167#COMPONENT-168#COMPONENT-169#COMPONENT-170#COMPON
ENT-171#COMPONENT-172#COMPONENT-173#COMPONENT-174#COMPONENT-175#COMPONENT-176#COMPONENT-177#COMP
ONENT-178#COMPONENT-179#COMPONENT-180#COMPONENT-181#COMPONENT-182#COMPONENT-183#COMPONENT-184#CO
MPONENT-185#COMPONENT-186#COMPONENT-187#COMPONENT-188#COMPONENT-189#COMPONENT-190#COMPONENT-191#
COMPONENT-192#COMPONENT-193#COMPONENT-194#COMPONENT-195#COMPONENT-196#COMPONENT-197#COMPONENT-19
8#COMPONENT-199#COMPONENT-200#COMPONENT-201#COMPONENT-202#COMPONENT-203#COMPONENT-204#COMPONENT-
205#COMPONENT-206#COMPONENT-207#COMPONENT-208#COMPONENT-209#COMPONENT-210#COMPONENT-211#COMPONEN
T-212#COMPONENT-213#COMPONENT-214#COMPONENT-215#COMPONENT-216#COMPONENT-217#COMPONENT-218#COMPON
ENT-219#COMPONENT-220#COMPONENT-221#COMPONENT-222#COMPONENT-223#COMPONENT-224#COMPONENT-225#COMP
ONENT-226#COMPONENT-227#COMPONENT-228#COMPONENT-229#COMPONENT-230#COMPONENT-231#COMPONENT-232#CO
MPONENT-233#COMPONENT-234#COMPONENT-235#COMPONENT-236#COMPONENT-237#COMPONENT-238#COMPONENT-239#
COMPONENT-240#COMPONENT-241#COMPONENT-242#COMPONENT-243#COMPONENT-244#COMPONENT-245#COMPONENT-24
6#COMPONENT-247#COMPONENT-248#COMPONENT-249#COMPONENT-250#COMPONENT-251#COMPONENT-252#COMPONENT-
253#COMPONENT-254#COMPONENT-255#COMPONENT-256#COMPONENT-257#COMPONENT-258#COMPONENT-259#COMPONEN
T-260#COMPONENT-261#COMPONENT-262#COMPONENT-263#COMPONENT-264#COMPONENT-265#COMPONENT-266#COMPON
ENT-267#COMPONENT-268#COMPONENT-269#COMPONENT-270#COMPONENT-271#COMPONENT-272#COMPONENT-273#COMP
ONENT-274#COMPONENT-275#COMPONENT-276#COMPONENT-277#COMPONENT-278#COMPONENT-279#COMPONENT-280#CO
MPONENT-281#COMPONENT-282#COMPONENT-283#COMPONENT-284#COMPONENT-285#COMPONENT-286#COMPONENT-287#
COMPONENT-288#COMPONENT-289#COMPONENT-290#COMPONENT-291#COMPONENT-292#COMPONENT-293#COMPONENT-29
4#COMPONENT-295#COMPONENT-296#COMPONENT-297#COMPONENT-298#COMPONENT-299#COMPONENT-300#COMPONENT-
301#COMPONENT-302#COMPONENT-303#COMPONENT-304#COMPONENT-305#COMPONENT-306#COMPONENT-307#COMPONEN
T-308#COMPONENT-309#COMPONENT-310#COMPONENT-311#COMPONENT-312#COMPONENT-313#COMPONENT-314#COMPON
ENT-315#COMPONENT-316#COMPONENT-317#COMPONENT-318#COMPONENT-319#COMPONENT-320#COMPONENT-321#COMP
ONENT-322#COMPONENT-323#COMPONENT-324#COMPONENT-325#COMPONENT-326#COMPONENT-327#COMPONENT-328#CO
MPONENT-329#COMPONENT-330#COMPONENT-331#COMPONENT-332#COMPONENT-333#COMPONENT-334#COMPONENT-335#
COMPONENT-336#COMPONENT-337#COMPONENT-338#COMPONENT-339#COMPONENT-340#COMPONENT-341#COMPONENT-34
2#COMPONENT-343#COMPONENT-344#COMPONENT-345#COMPONENT-346#COMPONENT-347#COMPONENT-348#COMPONENT-
349#COMPONENT-350#COMPONENT-351#COMPONENT-352#COMPONENT-353#COMPONENT-354#COMPONENT-355#COMPONEN
T-356#COMPONENT-357#COMPONENT-358#COMPONENT-359#COMPONENT-360#COMPONENT-361#COMPONENT-362#COMPON
ENT-363#COMPONENT-364#COMPONENT-365#COMPONENT-366#COMPONENT-367#COMPONENT-368#COMPONENT-369#COMP
ONENT-370#COMPONENT-371#COMPONENT-372#COMPONENT-373#COMPONENT-374#COMPONENT-375#COMPONENT-376#CO
MPONENT-377#COMPONENT-378#COMPONENT-379#COMPONENT-380#COMPONENT-381#COMPONENT-382#COMPONENT-383#
COMPONENT-384#COMPONENT-385#COMPONENT-386#COMPONENT-387#COMPONENT-388#COMPONENT-389#COMPONENT-39
0#COMPONENT-391#COMPONENT-392#COMPONENT-393#COMPONENT-394#COMPONENT-395#COMPONENT-396#COMPONENT-
397#COMPONENT-398#COMPONENT-399#COMPONENT-400#COMPONENT-401#COMPONENT-402#COMPONENT-403#COMPONEN
T-404#COMPONENT-405#COMPONENT-406#COMPONENT-407#COMPONENT-408#COMPONENT-409#COMPONENT-410#COMPON
ENT-411#COMPONENT-412#COMPONENT-413#COMPONENT-414#COMPONENT-415#COMPONENT-416#COMPONENT-417#COMP
ONENT-418#COMPONENT-419#COMPONENT-420#COMPONENT-421#COMPONENT-422#COMPONENT-423#COMPONENT-424#CO
MPONENT-425#COMPONENT-426#COMPONENT-427#COMPONENT-428#COMPONENT-429#COMPONENT-430#COMPONENT-431#
COMPONENT-432#COMPONENT-433#COMPONENT-434#COMPONENT-435#COMPONENT-436#COMPONENT-437#COMPONENT-43
8#COMPONENT-439#COMPONENT-440#COMPONENT-441#COMPONENT-442#COMPONENT-443#COMPONENT-444#COMPONENT-
445#COMPONENT-446#COMPONENT-447#COMPONENT-448#COMPONENT-449#COMPONENT-450#COMPONENT-451#COMPONEN
T-452#COMPONENT-453#COMPONENT-454#COMPONENT-455#COMPONENT-456#COMPONENT-457#COMPONENT-458#COMPON
ENT-459#COMPONENT-460#COMPONENT-461#COMPONENT-462#COMPONENT-463#COMPONENT-464#COMPONENT-465#COMP
ONENT-466#COMPONENT-467#COMPONENT-468#COMPONENT-469#COMPONENT-470#COMPONENT-471#COMPONENT-472#CO
MPONENT-473#COMPONENT-474#COMPONENT-475#COMPONENT-476#COMPONENT-477#COMPONENT-478#COMPONENT-479#
COMPONENT-480#COMPONENT-481#COMPONENT-482#COMPONENT-483#COMPONENT-484#COMPONENT-485#COMPONENT-48
6#COMPONENT-487#COMPONENT-488#COMPONENT-489#COMPONENT-490#COMPONENT-491#COMPONENT-492#COMPONENT-
493#COMPONENT-494#COMPONENT-495#COMPONENT-496#COMPONENT-497#COMPONENT-498#COMPONENT-499#COMPONEN
T-500#COMPONENT-501#COMPONENT-502#COMPONENT-503#COMPONENT-504#COMPONENT-505#COMPONENT-506#COMPON
ENT-507#COMPONENT-508#COMPONENT-509#COMPONENT-510#COMPONENT-511#COMPONENT-512#COMPONENT-513#COMP
ONENT-514#COMPONENT-515#COMPONENT-516#COMPONENT-517#COMPONENT-518#COMPONENT-519#COMPONENT-520#CO
MPONENT-521#COMPONENT-522#COMPONENT-523#COMPONENT-524#COMPONENT-525#COMPONENT-526#COMPONENT-527#
COMPONENT-528#COMPONENT-529#COMPONENT-530#COMPONENT-531#COMPONENT-532#COMPONENT-533#COMPONENT-53
4#COMPONENT-535#COMPONENT-536#COMPONENT-537#COMPONENT-538#COMPONENT-539#COMPONENT-540#COMPONENT-
541#COMPONENT-542#COMPONENT-543#COMPONENT-544#COMPONENT-545#COMPONENT-546#COMPONENT-547#COMPONEN
T-548#COMPONENT-549#COMPONENT-550#COMPONENT-551#COMPONENT-552#COMPONENT-553#COMPONENT-554#COMPON
ENT-555#COMPONENT-556#COMPONENT-557#COMPONENT-558#COMPONENT-559#COMPONENT-560#COMPONENT-561#COMP
ONENT-562#COMPONENT-563#COMPONENT-564#COMPONENT-565#COMPONENT-566#COMPONENT-567#COMPONENT-568#CO
MPONENT-569#COMPONENT-570#COMPONENT-571#COMPONENT-572#COMPONENT-573#COMPONENT-574#COMPONENT-575#
COMPONENT-576#COMPONENT-577#COMPONENT-578#COMPONENT-579#COMPONENT-580#COMPONENT-581#COMPONENT-58
2#COMPONENT-583#COMPONENT-584#COMPONENT-585#COMPONENT-586#COMPONENT-587#COMPONENT-588#COMPONENT-
589#COMPONENT-590#COMPONENT-591#COMPONENT-592#COMPONENT-593#COMPONENT-594#COMPONENT-595#COMPONEN
T-596#COMPONENT-597#COMPONENT-598#COMPONENT-599#COMPONENT-600#COMPONENT-601#COMPONENT-602#COMPON
ENT-603#COMPONENT-604#COMPONENT-605#COMPONENT-606#COMPONENT-607#COMPONENT-608#COMPONENT-609#COMP
ONENT-610#COMPONENT-611#COMPONENT-612#COMPONENT-613#COMPONENT-614#COMPONENT-615#COMPONENT-616#CO
MPONENT-617#COMPONENT-618#COMPONENT-619#COMPONENT-620#COMPONENT-621#COMPONENT-622#COMPONENT-623#
COMPONENT-624#COMPONENT-625#COMPONENT-626#COMPONENT-627#COMPONENT-628#COMPONENT-629#COMPONENT-63
0#COMPONENT-631#COMPONENT-632#COMPONENT-633#COMPONENT-634#COMPONENT-635#COMPONENT-636#COMPONENT-
637#COMPONENT-638#COMPONENT-639#COMPONENT-640#COMPONENT-641#COMPONENT-642#COMPONENT-643#COMPONEN
T-644#COMPONENT-645#COMPONENT-646#COMPONENT-647#COMPONENT-648#COMPONENT-649#COMPONENT-650#COMPON
ENT-651#COMPONENT-652#COMPONENT-653#COMPONENT-654#COMPONENT-655#COMPONENT-656#COMPONENT-657#COMP
ONENT-658#COMPONENT-659#COMPONENT-660#COMPONENT-661#COMPONENT-662#COMPONENT-663#COMPONENT-664#CO
MPONENT-665#COMPONENT-666#COMPONENT-667#COMPONENT-668#COMPONENT-669#COMPONENT-670#COMPONENT-671#
COMPONENT-672#COMPONENT-673#COMPONENT-674#COMPONENT-675#COMPONENT-676#COMPONENT-677#COMPONENT-67
8#COMPONENT-679#COMPONENT-680#COMPONENT-681#COMPONENT-682#COMPONENT-683#COMPONENT-684#COMPONENT-
685#COMPONENT-686#COMPONENT-687#COMPONENT-688#COMPONENT-689#COMPONENT-690#COMPONENT-691#COMPONEN
T-692#COMPONENT-693#COMPONENT-694#COMPONENT-695#COMPONENT-696#COMPONENT-697#COMPONENT-698#COMPON
ENT-699#COMPONENT-700#COMPONENT-701#COMPONENT-702#COMPONENT-703#COMPONENT-704#COMPONENT-705#COMP
ONENT-706#COMPONENT-707#COMPONENT-708#COMPONENT-709#COMPONENT-710#COMPONENT-711#COMPONENT-712#CO
MPONENT-713#COMPONENT-714#COMPONENT-715#COMPONENT-716#COMPONENT-717#COMPONENT-718#COMPONENT-719#
COMPONENT-720#COMPONENT-721#COMPONENT-722#COMPONENT-723#COMPONENT-724#COMPONENT-725#COMPONENT-72
6#COMPONENT-727#COMPONENT-728#COMPONENT-729#COMPONENT-730#COMPONENT-731#COMPONENT-732#COMPONENT-
733#COMPONENT-734#COMPONENT-735#COMPONENT-736#COMPONENT-737#COMPONENT-738#COMPONENT-739#COMPONEN
T-740#COMPONENT-741#COMPONENT-742#COMPONENT-743#COMPONENT-744#COMPONENT-745#COMPONENT-746#COMPON
ENT-747#COMPONENT-748#COMPONENT-749#COMPONENT-750#COMPONENT-751#COMPONENT-752#COMPONENT-753#COMP
ONENT-754#COMPONENT-755#COMPONENT-756#COMPONENT-757#COMPONENT-758#COMPONENT-759#COMPONENT-760#CO
MPONENT-761#COMPONENT-762#COMPONENT-763#COMPONENT-764#COMPONENT-765#COMPONENT-766#COMPONENT-767#
COMPONENT-768@1AFF0!vjaMINNAN TONE-2%TONE-3%TONE-4%TONE-5@1AFF5%TONE-7%TONE-8%NASALIZED TONE-1&T
ONE-2&TONE-3&TONE-4&TONE-5@1AFFD&TONE-7&TONE-8@1B000$sgE!HIRAGANAasgYE!HENTAIGANAaA-1$A-2$A-3$A-
WO$I-1$I-2$I-3$I-4$U-1$U-2$U-3$U-4$U-5$E-2$E-3$E-4$E-5$E-6$O-1$O-2$O-3$KA-1$KA-2$KA-3$KA-4$KA-5$
KA-6$KA-7$KA-8$KA-9$KA-10$KA-11$KA-KE$KI-1$KI-2$KI-3$KI-4$KI-5$KI-6$KI-7$KI-8$KU-1$KU-2$KU-3$KU-
4$KU-5$KU-6$KU-7$KE-1$KE-2$KE-3$KE-4$KE-5$KE-6$KO-1$KO-2$KO-3$KO-KI$SA-1$SA-2$SA-3$SA-4$SA-5$SA-
6$SA-7$SA-8$SI-1$SI-2$SI-3$SI-4$SI-5$SI-6$SU-1$SU-2$SU-3$SU-4$SU-5$SU-6$SU-7$SU-8$SE-1$SE-2$SE-3
$SE-4$SE-5$SO-1$SO-2$SO-3$SO-4$SO-5$SO-6$SO-7$TA-1$TA-2$TA-3$TA-4$TI-1$TI-2$TI-3$TI-4$TI-5$TI-6$
TI-7$TU-1$TU-2$TU-3$TU-4$TU-TO$TE-1$TE-2$TE-3$TE-4$TE-5$TE-6$TE-7$TE-8$TE-9$TO-1$TO-2$TO-3$TO-4$
TO-5$TO-6$TO-RA$NA-1$NA-2$NA-3$NA-4$NA-5$NA-6$NA-7$NA-8$NA-9$NI-1$NI-2$NI-3$NI-4$NI-5$NI-6$NI-7$
NI-TE$NU-1$NU-2$NU-3$NE-1$NE-2$NE-3$NE-4$NE-5$NE-6$NE-KO$NO-1$NO-2$NO-3$NO-4$NO-5$HA-1$HA-2$HA-3
$HA-4$HA-5$HA-6$HA-7$HA-8$HA-9$HA-10$HA-11$HI-1$HI-2$HI-3$HI-4$HI-5$HI-6$HI-7$HU-1$HU-2$HU-3$HE-
1$HE-2$HE-3$HE-4$HE-5$HE-6$HE-7$HO-1$HO-2$HO-3$HO-4$HO-5$HO-6$HO-7$HO-8$MA-1$MA-2$MA-3$MA-4$MA-5
$MA-6$MA-7$MI-1$MI-2$MI-3$MI-4$MI-5$MI-6$MI-7$MU-1$MU-2$MU-3$MU-4$ME-1$ME-2$ME-MA$MO-1$MO-2$MO-3
$MO-4$MO-5$MO-6$YA-1$YA-2$YA-3$YA-4$YA-5$YA-YO$YU-1$YU-2$YU-3$YU-4$YO-1$YO-2$YO-3$YO-4$YO-5$YO-6
$RA-1$RA-2$RA-3$RA-4$RI-1$RI-2$RI-3$RI-4$RI-5$RI-6$RI-7$RU-1$RU-2$RU-3$RU-4$RU-5$RU-6$RE-1$RE-2$
RE-3$RE-4$RO-1$RO-2$RO-3$RO-4$RO-5$RO-6$WA-1$WA-2$WA-3$WA-4$WA-5$WI-1$WI-2$WI-3$WI-4$WI-5$WE-1$W
E-2$WE-3$WE-4$WO-1$WO-2$WO-3$WO-4$WO-5$WO-6$WO-7$N-MU-MO-1$N-MU-MO-2!HIRAGANAasgWU!vjasgYI%YE%WU
@1B150!HIRAGANAadWI%WE%WO@1B164!vjadWI%WE%WO%N@1BC00!DUPLOYANaH$X$P$T$F$K$L$B$D$V$G$R$P N$D S$
F N$K M$R S$TH$SLOAN DH$DH$KK$SLOAN J$HL$LH$RH$M$N$J$S$M N$N M$J M$S J$Mbmm$Nbmm$Jbmm&nktxkxi$Sb
mm(kg$M S$N S$J S$S S$M N S$N M S$J M S$S J S$J Sbmm%N&S$S T&R%P&R$T S%R S$W$WH$W R$S N%M$K R S$
G R S$S K&R$A$SLOAN OW$OA$O$AOU$I$E$IE$pjI$UI$EE$SLOAN EH$ROMANIAN I$SLOAN EE$oxI$YE$U$EU$XW$U N
$oxU$ROMANIAN U$UH$SLOAN U$OOH$OW$OU$WA$WO$WI$WEI$WOW$NASAL U%O%I%A$PERNIN AN%AM$SLOAN EN%AN%ON$
moM@1BC70#AFFIXkkkiSECANT$MIDkiSECANT$hkiSECANT$sbkdSECANT$MIDkdSECANT$pmkdSECANT$ATTACHED SECAN
T%zhSECANT%TANGENT%rk%Ell%Ill%TANGENTll@1BC80$pmmq%TIGHTmq%nv%oxnv%mm%le%qj%WAVE%kd@1BC90$sbmq%T
IGHTmq%nv%oxnv%mm%le%qj%WAVE%kd%f@1BC9C#gObqd#THICKaSELECTOR#kbkz#lsCHINOOKrtpr!SHORTHAND FORMAT
aOVERLAP$CONTINUING OVERLAP$mvSTEP$UP STEP@1CF00!ZNAMENNYnakzGORAZDO NIZKO SwhONkk%NIZKO SwhONkk
%TSATA ONkk%GORAZDO NIZKO ONkk%NIZKO ONkk%SREDNE ONkk%MALOwjONkk%wjONkk%VYSOKO ONkk%MALOwjS KHOK
HLOM ONkk%wjS KHOKHLOM ONkk%VYSOKO S KHOKHLOM ONkk%GORAZDO NIZKO SwhONh%NIZKO SwhONh%TSATA ONh%G
ORAZDO NIZKO ONh%NIZKO ONh%SREDNE ONh%MALOwjONh%wjONh%VYSOKO ONh%MALOwjS KHOKHLOM ONh%wjS KHOKHL
OM ONh%VYSOKO S KHOKHLOM ONh%TSATA Swh%MALOwjSwh%STRANNO MALOwj%wjSwh&STRANNO%VYSOKO Swh%MALOwjS
TRANNO%GORAZDO VYSOKO%ZELO%ON%RAVNO%TIKHAYA%BORZAYA%UDARKA%PODVERTKA%LOMKA%KUPNAYA%KACHKA%ZEVOK%
SKOBA%RAZSEKA%KRYZH ONkk@1CF30$TONAL RANGEkzMRACHNO(SVETLO(TRESVETLO$kzZADERZHKA%DEMESTVENNY ZAD
ERZHKA%OTSECHKA%PODCHASHIE&bkdkj%CHASHKA&POLNAYA%OBLACHKO%SOROCHYA NOZHKA%TOCHKA%DVOETOCHIE$ATTA
CHINGkdOMET$kzCURVED OMET%KRYZH$mjTONAL RANGExm#PRIZNAKonLEVEL-2%LEVEL-3%DIRECTION FLIP%KRYZH%RO
G@1CF50#NEUME KRYUK%TIKHY$PARAKLIT$DVA V CHELNU$KLYUCH$ZANOZHEK$STOPITSA%S OCHKOM$PEREVODKA%ya$S
TOPITSAbSOROCHYA NOZHKA$CHELYUSTKA$PALKA$xs$GOLUBCHIK BORZY%TIKHY%MRACHNY%SVETLY%TRESVETLY$VRAKH
IYA PROSTAYA%MRACHNAYA%SVETLAYA%TRESVETLAYA%wkPROSTAYA&MRACHNAYA&SVETLAYA&TRESVETLAYA$kbxs$lgCHE
LYUSTKA$DERBITSA$KHAMILO$CHASHKA$PODCHASHIE$SKAMEYTSA MRACHNAYA%SVETLAYA%TRESVETLAYA%TIKHAYA$DEM
ESTVENNY KLYUCH$SKAMEYTSAwkSVETLAYA%KLYUCHENEPOSTOYANNAYA%wkTIKHAYA%DVOECHELNAYA PROSTAYA&SVETLA
YA&ya&wk$SLOZHITIE%S ZAPYATOY%ZAKRYTOE%Swh$KRYZH$ROG$FITA$KOBYLA$ZMEYTSA$STATYA%S ZAPYATOY&wh&ZA
PYATOY Iwh&whI ZAPYATOY%ZAKRYTAYA&S ZAPYATOY%S ROGOM&DVUMYA ZAPYATYMI&ZAPYATOY I PODCHASHIEM$POL
KULIZMY$STATYAya$STRELA PROSTAYA%MRACHNOTIKHAYA%KRYZHEVAYA%POLUPOVODNAYA%POVODNAYA%ya%KLYUCHEPOV
ODNAYA%KLYUCHENEPOSTOYANNAYA%TIKHAYA PUTNAYA%DVOECHELNAYA%DVOECHELNOKRYZHEVAYA%DVOECHELNOPOVODNA
YA%DVOECHELNAYAwk%DVOECHELNOPOVODNAYAwk%GROMNAYAbmtxs%GROMOPOVODNAYAbmtxs%GROMNAYA%GROMOPOVODNAY
A&bkbxs%GROMOKRYZHEVAYA&POVODNAYA$MECHIK%POVODNY%KLYUCHEVOY%KLYUCHEPOVODNY%KLYUCHENEPOSTOYANNY$S
TRELA TRYASOGLASNAYA%TRYASOPOVODNAYA%TRYASOSTRELNAYA$OSOKA%SVETLAYA%TRESVETLAYA%KRYUKOVAYA SVETL
AYA%wkSVETLAYA&ya$STRELA KRYUKOVAYA&POVODNAYA&GROMNAYAbmtxs&GROMOPOVODNAYAbmtxs&GROMNAYA&GROMOPO
VODNAYA(bkbxs&GROMOKRYZHEVAYA(POVODNAYA&TRYASKA$KUFISMA$OBLAKO$DUDA$NEMKA$PAUK@1D000!BYZANTINEwi
klnn%DASEIA%lp%OXEIA EKFONITIKON&DIPLI%VAREIA EKFONITIKON&DIPLI%KATHISTI%SYRMATIKI%PARAKLITIKI%Y
POKRISIS&DIPLI%KREMASTI%APESO EKFONITIKON%EXO EKFONITIKON%TELEIA%KENTIMATA%APOSTROFOS&DIPLI%SYNE
VMA%THITA%OLIGONrf%GORGONrf%PSILON%CHAMILON%VATHY%ISONrf%KENTIMArf%KENTIMATArf%SAXIMATA%PARICHON
%STAVROS APODEXIA%OXEIAIrf%VAREIAIrf%APODERMArf%APOTHEMA%KLASMA%REVMA%PIASMArf%TINAGMA%ANATRICHI
SMA%SEISMA%SYNAGMArf&META STAVROU%OYRANISMArf%THEMA%LEMOI%DYO%TRIA%TESSERA%KRATIMATA%APESO EXO N
EO%FTHORArf%IMIFTHORA%TROMIKONrf%KATAVA TROMIKON%PELASTON%PSIFISTON%KONTEVMA%CHOREVMArf%RAPISMA%
PARAKALESMArf%PARAKLITIKIrf%ICHADIN%NANA%PETASMA%KONTEVMA ALLO%TROMIKON ALLO%STRAGGISMATA%GRONTH
ISMATA%ISON NEO%OLIGON NEO%OXEIA NEO%PETASTI%KOUFISMA%PETASTOKOUFISMA%KRATIMOKOUFISMA%PELASTON N
EO%KENTIMATA NEO ANO%KENTIMA NEO ANO%YPSILI%APOSTROFOS NEO%APOSTROFOI SYNDESMOS NEO%YPORROI%KRAT
IMOYPORROON%ELAFRON%CHAMILI%MIKRON ISON%VAREIA NEO%PIASMA NEO%PSIFISTON NEO%OMALON%ANTIKENOMA%LY
GISMA%PARAKLITIKI NEO%PARAKALESMA NEO%ETERON PARAKALESMA%KYLISMA%ANTIKENOKYLISMA%TROMIKON NEO%EK
STREPTON%SYNAGMA NEO%SYRMA%CHOREVMA NEO%EPEGERMA%SEISMA NEO%XIRON KLASMA%TROMIKOPSIFISTON%PSIFIS
TOLYGISMA%TROMIKOLYGISMA%TROMIKOPARAKALESMA%PSIFISTOPARAKALESMA%TROMIKOSYNAGMA%PSIFISTOSYNAGMA%G
ORGOSYNTHETON%ARGOSYNTHETON%ETERON ARGOSYNTHETON%OYRANISMA NEO%THEMATISMOS ESO&EXO%THEMA APLOUN%
THES KAI APOTHES%KATAVASMA%ENDOFONON%YFEN KATO&ANO%STAVROS%KLASMA ANO%DIPLIrf%KRATIMArf&ALLO&NEO
%APODERMA NEO%APLI%DIPLI%TRIPLI%TETRAPLI%KORONIS%LEIMMA ENOS CHRONOU&DYO CHRONON&TRION CHRONON&T
ESSARON CHRONON&IMISEOS CHRONOU%GORGON NEO ANO&PARESTIGMENON ARISTERA(DEXIA%DIGORGON&PARESTIGMEN
ON ARISTERA KATO)ANO(DEXIA%TRIGORGON%ARGON%IMIDIARGON%DIARGON%AGOGI POLI ARGI&ARGOTERI&ARGI&METR
IA&MESI&GORGI&GORGOTERI&POLI GORGI%MARTYRIA PROTOS ICHOS&ALLI PROTOS ICHOS&DEYTEROS ICHOS&ALLI D
EYTEROS ICHOS&TRITOS ICHOS&TRIFONIAS&TETARTOS ICHOS(LEGETOS ICHOS&LEGETOS ICHOS&PLAGIOS ICHOS%IS
AKIA TELOUS ICHIMATOS%APOSTROFOI TELOUS ICHIMATOS%FANEROSIS TETRAFONIAS&MONOFONIAS&DIFONIAS%MART
YRIA VARYS ICHOS&PROTOVARYS ICHOS&PLAGIOS TETARTOS ICHOS%GORTHMIKON N APLOUN(DIPLOUN%ENARXIS KA
I FTHORA VOU%IMIFONON%IMIFTHORON%FTHORArfDEYTEROU ICHOU&DIATONIKI PA(NANA&NAOS ICHOS&DIATONIKI D
I&SKLIRON DIATONON DI&DIATONIKI KE(ZO(NI KATO)ANO&MALAKON CHROMA DIFONIAS)MONOFONIAS%FHTORA SKLI
RON CHROMA VASIS%FTHORA SKLIRON CHROMA SYNAFI&NENANO%CHROA ZYGOS&KLITON&SPATHI%FTHORA I YFESIS T
ETARTIMORION&ENARMONIOS ANTIFONIA%YFESIS TRITIMORION%DIESIS TRITIMORION&TETARTIMORION&APLI DYOzs
&MONOGRAMMOS TESSERAzs&DIGRAMMOS EXzs&TRIGRAMMOS OKTOzs%YFESIS APLI DYOzs&MONOGRAMMOS TESSERAzs&
DIGRAMMOS EXzs&TRIGRAMMOS OKTOzs%GENIKI DIESIS&YFESIS%DIASTOLI APLI MIKRI(MEGALI&DIPLI&THESEOS%S
IMANSIS THESEOS(DISIMOU(TRISIMOU(TETRASIMOU&ARSEOS(DISIMOU(TRISIMOU(TETRASIMOU%DIGRAMMA GG%DIFTO
GGOS OU%STIGMA%ARKTIKO PA&VOU&GA&DI&KE&ZO&NI%KENTIMATA NEO MESO%KENTIMA NEO MESO%KENTIMATA NEO K
ATO%KENTIMA NEO KATO%KLASMA KATO%GORGON NEO KATO@1D100!wiklmtBARLINE$kbBARLINE$khBARLINE$rwkhBAR
LINE$xvBARLINE$pjBARLINE$kkREPEATg$hREPEATg$REPEATnk$DAL SEGNO$DA CAPO$SEGNO$CODA$REPEATED FIGUR
E-1%FIGURE-2%FIGURE-3$FERMATA%kg$BREATHkz$CAESURA$BRACE$kt$ONE-LINE STAFF$TWO-LINE STAFF$THREE-L
INE STAFF$FOUR-LINE STAFF$FIVE-LINE STAFF$SIX-LINE STAFF$SIX-STRING FRETBOARD$FOUR-STRING FRETBO
ARD$G CLEF&OTTAVA ALTA(BASSA$C CLEF$F CLEF&OTTAVA ALTA(BASSA$DRUM CLEF-1%CLEF-2@1D129$tyMEASUR
E REST$kbSHARP%FLAT$FLAT UP%mv$NATURAL UP%mv$SHARP UP%mv$papbSHARP&FLAT$COMMON TIME$CUT TIME$OTT
AVA ALTA%BASSA$QUINDICESIMA ALTA%BASSA$MULTI REST$WHOLE REST$mrREST$paREST$rrREST$SIXTEENTH REST
$THIRTY-SECOND REST$SIXTY-FOURTH REST$mikpTWENTY-EIGHTH REST$Xum$mnum$leXum$ldumks&kn$kwumUPks(k
n&kkks(kn&hks(kn&mvks(kn&UPhks)kn$xdumks&kn$TRIANGLE-ROUNDummvks(kn$ltum$VOIDum$umkn$NULLum$CLUS
TERumks&kn$ou$WHOLE NOTE$mrNOTE$paNOTE$rrNOTE$SIXTEENTH NOTE$THIRTY-SECOND NOTE$SIXTY-FOURTH NOT
E$mikpTWENTY-EIGHTH NOTE$naSTEM%SPRECHGESANG STEM%TREMOLO-1%TREMOLO-2%TREMOLO-3$FINGERED TREMOLO
-1%TREMOLO-2%TREMOLO-3$naAUGMENTATIONmm%FLAG-1%FLAG-2%FLAG-3%FLAG-4%FLAG-5$BEGIN BEAM$END BEAM$B
EGIN TIE$END TIE$BEGIN SLUR$END SLUR$BEGIN PHRASE$END PHRASE$napk%STACCATO%TENUTO%STACCATISSIMO%
MARCATO%MARCATO-STACCATO%ACCENT-STACCATO%LOURE$ARPEGGIATO UP%mv$naDOIT%RIP%FLIP%SMEAR%BEND%kbTON
GUE%ohTONGUE$RINFORZANDO$SUBITO$Z$PIANO$MEZZO$FORTE$CRESCENDO$DECRESCENDO$GRACE NOTEyx&NOyx$TR$T
URN$lqTURN$TURNyx%UP$meSTROKE-1%STROKE-2%STROKE-3%STROKE-4%STROKE-5%STROKE-6%STROKE-7%STROKE-8%S
TROKE-9%STROKE-10%STROKE-11$HAUPTSTIMME$NEBENSTIMME$END OF STIMME$DEGREEyx$namvBOW%UP BOW%HARMON
IC%SNAP PIZZICATO$PEDALkz%UPkz$mrPEDALkz$GLISSANDO UP%mv$bFINGERNAILS$DAMP%ALL$MAXIMA$LONGA$BREV
IS$SEMIBREVISks%kn$MINIMA%kn$SEMIMINIMAks%kn$FUSAks%kn$LONGA PERFECTA REST%IMPERFECTA REST$BREVI
S REST$SEMIBREVIS REST$MINIMA REST$SEMIMINIMA REST$TEMPUS PERFECTUM CUM PROLATIONE PERFECTA)IMPE
RFECTA)PERFECTA DIMINUTION-1%IMPERFECTUM CUM PROLATIONE PERFECTA)IMPERFECTA*DIMINUTION-1*DIMINUT
ION-2*DIMINUTION-3$CROIX$GREGORIAN C CLEF%F CLEF$ldB$VIRGA$PODATUS$CLIVIS$SCANDICUS$CLIMACUS$TOR
CULUS$PORRECTUS%FLEXUS$SCANDICUS FLEXUS$TORCULUS RESUPINUS$PES SUBPUNCTIS$KIEVAN C CLEF%END OF P
IECE%khNOTE%RECITATIVEkz%WHOLE NOTE%mrNOTE%paNOTE STEMmv)UP%rrNOTE STEMmv)UP%FLATg$SORI$KORON@1D
200!twVOCAL NOTATION SYMBOL-1%SYMBOL-2%SYMBOL-3%SYMBOL-4%SYMBOL-5%SYMBOL-6%SYMBOL-7%SYMBOL-8%SYM
BOL-9%SYMBOL-10%SYMBOL-11%SYMBOL-12%SYMBOL-13%SYMBOL-14%SYMBOL-15%SYMBOL-16%SYMBOL-17%SYMBOL-18%
SYMBOL-19%SYMBOL-20%SYMBOL-21%SYMBOL-22%SYMBOL-23%SYMBOL-24%SYMBOL-50%SYMBOL-51%SYMBOL-52%SYMBOL
-53%SYMBOL-54#INSTRUMENTAL NOTATION SYMBOL-1%SYMBOL-2%SYMBOL-4%SYMBOL-5%SYMBOL-7%SYMBOL-8%SYMBOL
-11%SYMBOL-12%SYMBOL-13%SYMBOL-14%SYMBOL-17%SYMBOL-18%SYMBOL-19%SYMBOL-23%SYMBOL-24%SYMBOL-25%SY
MBOL-26%SYMBOL-27%SYMBOL-29%SYMBOL-30%SYMBOL-32%SYMBOL-36%SYMBOL-37%SYMBOL-38%SYMBOL-39%SYMBOL-4
0%SYMBOL-42%SYMBOL-43%SYMBOL-45%SYMBOL-47%SYMBOL-48%SYMBOL-49%SYMBOL-50%SYMBOL-51%SYMBOL-52%SYMB
OL-53%SYMBOL-54!natwwiTRISEME%TETRASEME%PENTASEME!twwiLEIMMA@1D2E0!MAYANysok$mi$md$km$lj$lo$pl$l
k$lh$mz$ta$ze$wu$THIRTEEN$zv$xb$yw$xo$xx$zz@1D300!MONOGRAM FOR EARTH!DIGRAM FOR HEAVENLY EARTH$H
UMAN EARTH$EARTHLY HEAVEN%HUMAN$EARTH!TETRAGRAM FORnp$rtle$MIRED$BARRIER$KEEPINGd$CONTRARIETY$AS
CENT$OPPOSITION$BRANCHING OUT$DEFECTIVENESS OR DISTORTION$DIVERGENCE$YOUTHFULNESS$INCREASE$PENET
RATION$REACH$CONTACT$HOLDING BACK$WAITING$FOLLOWING$ADVANCE$RELEASE$RESISTANCE$EASE$JOY$CONTENTI
ON$ENDEAVOUR$DUTIES$CHANGE$DECISIVENESS$vxRESOLUTION$PACKING$LEGION$CLOSENESS$KINSHIP$GATHERING$
STRENGTH$PURITY$FULLNESS$RESIDENCE$LAW OR MODEL$RESPONSE$GOING TO MEET$ENCOUNTERS$STOVE$GREATNES
S$ENLARGEMENT$PATTERN$RITUAL$FLIGHT$VASTNESS OR WASTING$CONSTANCY$MEASURE$ETERNITY$UNITY$DIMINIS
HMENT$qavn$GUARDEDNESS$GATHERING IN$MASSING$ACCUMULATION$EMBELLISHMENT$DOUBT$WATCH$SINKING$INNER
$DEPARTURE$DARKENING$DIMMING$EXHAUSTION$SEVERANCE$STOPPAGE$HARDNESS$COMPLETION$CLOSURE$FAILURE$A
GGRAVATION$COMPLIANCE$ON THE VERGE$DIFFICULTIES$LABOURING$FOSTERING@1D360!COUNTING ROD UNITmhmi&
md&km&lj&lo&pl&lk&lh&mz$TENSmhmi&md&km&lj&lo&pl&lk&lh&mz!qkTALLYkzmi%md%km%lj%lo!TALLYkzmi$lo@1D
400!xcvxcA%B%C%D%E%F%G%H%I%J%K%L%M%N%O%P%Q%R%S%T%U%V%W%X%Y%Z$dA%B%C%D%E%F%G%H%I%J%K%L%M%N%O%P%Q%
R%S%T%U%V%W%X%Y%Z#ITALICcA%B%C%D%E%F%G%H%I%J%K%L%M%N%O%P%Q%R%S%T%U%V%W%X%Y%Z$dA%B%C%D%E%F%G@1D45
6%I%J%K%L%M%N%O%P%Q%R%S%T%U%V%W%X%Y%Z#vxITALICcA&B&C&D&E&F&G&H&I&J&K&L&M&N&O&P&Q&R&S&T&U&V&W&X&Y
&Z%dA&B&C&D&E&F&G&H&I&J&K&L&M&N&O&P&Q&R&S&T&U&V&W&X&Y&Z#sdcA@1D49E%C%D@1D4A2%G@1D4A5%J%K@1D4A9%N
%O%P%Q@1D4AE%S%T%U%V%W%X%Y%Z$dA%B%C%D@1D4BB%F@1D4BD%H%I%J%K%L%M%N@1D4C5%P%Q%R%S%T%U%V%W%X%Y%Z#vx
sdcA&B&C&D&E&F&G&H&I&J&K&L&M&N&O&P&Q&R&S&T&U&V&W&X&Y&Z%dA&B&C&D&E&F&G&H&I&J&K&L&M&N&O&P&Q&R&S&T&
U&V&W&X&Y&Z#FRAKTURcA%B@1D507%D%E%F%G@1D50D%J%K%L%M%N%O%P%Q@1D516%S%T%U%V%W%X%Y@1D51E$dA%B%C%D%E
%F%G%H%I%J%K%L%M%N%O%P%Q%R%S%T%U%V%W%X%Y%Z#rdcA%B@1D53B%D%E%F%G@1D540%I%J%K%L%M@1D546%O@1D54A%S%
T%U%V%W%X%Y@1D552$dA%B%C%D%E%F%G%H%I%J%K%L%M%N%O%P%Q%R%S%T%U%V%W%X%Y%Z#vxFRAKTURcA&B&C&D&E&F&G&H
&I&J&K&L&M&N&O&P&Q&R&S&T&U&V&W&X&Y&Z%dA&B&C&D&E&F&G&H&I&J&K&L&M&N&O&P&Q&R&S&T&U&V&W&X&Y&Z#ojcA%B
%C%D%E%F%G%H%I%J%K%L%M%N%O%P%Q%R%S%T%U%V%W%X%Y%Z$dA%B%C%D%E%F%G%H%I%J%K%L%M%N%O%P%Q%R%S%T%U%V%W%
X%Y%Z$vxcA&B&C&D&E&F&G&H&I&J&K&L&M&N&O&P&Q&R&S&T&U&V&W&X&Y&Z%dA&B&C&D&E&F&G&H&I&J&K&L&M&N&O&P&Q&
R&S&T&U&V&W&X&Y&Z$ITALICcA&B&C&D&E&F&G&H&I&J&K&L&M&N&O&P&Q&R&S&T&U&V&W&X&Y&Z%dA&B&C&D&E&F&G&H&I&
J&K&L&M&N&O&P&Q&R&S&T&U&V&W&X&Y&Z$vxITALICcA(B(C(D(E(F(G(H(I(J(K(L(M(N(O(P(Q(R(S(T(U(V(W(X(Y(Z&d
A(B(C(D(E(F(G(H(I(J(K(L(M(N(O(P(Q(R(S(T(U(V(W(X(Y(Z#MONOSPACEcA%B%C%D%E%F%G%H%I%J%K%L%M%N%O%P%Q%
R%S%T%U%V%W%X%Y%Z$dA%B%C%D%E%F%G%H%I%J%K%L%M%N%O%P%Q%R%S%T%U%V%W%X%Y%Z#ITALICduoI&J@1D6A8#vxcry%
BETA%uw%vw%qm%ZETA%ETA%ud%vi%wx%LAMDA%MU%NU%XI%sr%PI%RHO%udkl%tr%TAU%qg%PHI%CHI%PSI%rc$NABLA$dry
%BETA%uw%vw%qm%ZETA%ETA%ud%vi%wx%LAMDA%MU%NU%XI%sr%PI%RHO%khtr%tr%TAU%qg%PHI%CHI%PSI%rc$PARTIALx
a$qmkl$udkl$wxkl$PHIkl$RHOkl$PIkl#ITALICcry%BETA%uw%vw%qm%ZETA%ETA%ud%vi%wx%LAMDA%MU%NU%XI%sr%PI
%RHO%udkl%tr%TAU%qg%PHI%CHI%PSI%rc$NABLA$dry%BETA%uw%vw%qm%ZETA%ETA%ud%vi%wx%LAMDA%MU%NU%XI%sr%P
I%RHO%khtr%tr%TAU%qg%PHI%CHI%PSI%rc$PARTIALxa$qmkl$udkl$wxkl$PHIkl$RHOkl$PIkl#vxITALICcry&BETA&u
w&vw&qm&ZETA&ETA&ud&vi&wx&LAMDA&MU&NU&XI&sr&PI&RHO&udkl&tr&TAU&qg&PHI&CHI&PSI&rc%NABLA%dry&BETA&
uw&vw&qm&ZETA&ETA&ud&vi&wx&LAMDA&MU&NU&XI&sr&PI&RHO&khtr&tr&TAU&qg&PHI&CHI&PSI&rc%PARTIALxa%qmkl
%udkl%wxkl%PHIkl%RHOkl%PIkl#ojvxcry&BETA&uw&vw&qm&ZETA&ETA&ud&vi&wx&LAMDA&MU&NU&XI&sr&PI&RHO&udk
l&tr&TAU&qg&PHI&CHI&PSI&rc%NABLA%dry&BETA&uw&vw&qm&ZETA&ETA&ud&vi&wx&LAMDA&MU&NU&XI&sr&PI&RHO&kh
tr&tr&TAU&qg&PHI&CHI&PSI&rc%PARTIALxa%qmkl%udkl%wxkl%PHIkl%RHOkl%PIkl%ITALICcry(BETA(uw(vw(qm(ZE
TA(ETA(ud(vi(wx(LAMDA(MU(NU(XI(sr(PI(RHO(udkl(tr(TAU(qg(PHI(CHI(PSI(rc&NABLA&dry(BETA(uw(vw(qm(Z
ETA(ETA(ud(vi(wx(LAMDA(MU(NU(XI(sr(PI(RHO(khtr(tr(TAU(qg(PHI(CHI(PSI(rc&PARTIALxa&qmkl&udkl&wxkl
&PHIkl&RHOkl&PIkl#vxcDIGAMMA$dDIGAMMA@1D7CE$mhok%mi%md%km%lj%lo%pl%lk%lh%mz#rdmhok%mi%md%km%lj%l
o%pl%lk%lh%mz#ojmhok%mi%md%km%lj%lo%pl%lk%lh%mz$vxmhok&mi&md&km&lj&lo&pl&lk&lh&mz#MONOSPACEmhok%
mi%md%km%lj%lo%pl%lk%lh%mz!SIGNWRITINGobma#psma#HAND-CUPma#HAND-OVALma#qcma#soma#obmavu#psmavu#o
bnjUNDERmavu$marvKNUCKLE%CUPPED%vh&sb#psmaHINGE#obmakr#psmakr#obmakrvu&rvKNUCKLES&vh%UPkrvh%vhkr
UP%krqt(mavu(krvu(CUPPED(vh&ve#psmakrve#obkrvunmma$mavunmkr%krnj#psmakrnj#obmakrpynjvu&vunjpy&nj
vu&vhygnjxf%UPkrvhnjxf*qt%vhkrUPnjxf%krUPygnjte&njCUPPED(nb(HOOKED(vh$njtbmakrpy$makrqtnjxf*qt*v
u$krnjHOOKEDmaUP$manjHOOKEDkrUP%krqtvhnjxf&venjxf&qtnjte(CUPPEDnjte$krnjCUPPEDmaUP$manjCUPPEDkrU
P$krnjnbmaUP)vh$manjANGLED OUTkrUP(INkrUP&nbkrUP%krnjqtvh(ANGLED OUT)$krnjANGLED OUTmaUP*ve(maUP
$manjHOOKEDkrvh#HAND-FLATljqx&vu&vh&qt(SPLIT#HAND-CLAWljqxqt#obljqxqtvu#qcljqxqt#HAND-FLATloqxyg
$HEELloqxyg$loqxygljvu$HEELloqxygljvu$loqxygvu$HEELloqxygvu$loqxygnjte#HAND-CUPloqxyg(ot#qcloqxy
got#HAND-OVALloqxyg#HAND-FLATloqxygvh)njxf)NOnj$$tbPALM FACINGS$HEEL$njxf$HEELnjxf$njvu%te$SPLIT
manjxf%np&njxf)vu%nq#HAND-CLAW$njxf$NOnj$njte#HAND-HOOK CURLICUE$#HAND-CUPot$$otnjxf$njxf$otNOnj
$NOnj$otnjte$njte#HAND-CURLICUEot$#ps#HAND-OVAL$njxf$NOnj$njte#qcot%njte$$d$otnjxf$njxf$otNOnj$N
Onj$njxfTOUCHINGma%tbkrnx#so#obmakrnx#psmakrnx#qcmakrnx#somakrnx#qcnq#obmakrnxvu(qt#qcmakrnxqt#o
bnqmv&RIPPLEpy(CURVED&OTHERSnb%UP$njUNDERnqUP#psnqUP#HAND-OVALnqUP#sonqUP#obnqrvKNUCKLE%vu%TOUCH
ESnj%nj#qcnqnj#obnqmanj#qcnqmanj#sonqmanjmanjOUT*#obnqma#psnqma#qcnqma#sonqma#obmakrnq#psmakrnq#
qcmakrnq$nx#somakrnq#obmakrqdnq#psmakrqdnq#obnxmv#qcnxmvmanjllkr#sonxmvkrnjmaqd#obnxUP%rvKNUCKLE
%nq#psnxnq#HAND-OVALnxnq#sonxnq#obnxkr&qt&rvKNUCKLES%ma%nj#HAND-HOOKnxnj#obmanxnq#psmanxnq#HAND-
CURLICUEmanxnqON#HAND-HOOKmanxnqOUT(IN(UNDER#HAND-CUPmanxnq#qcmanxnq#somanxnqOUT(#obkrmv#qckr#ob
krUP#pskrUP#obkrrvKNUCKLE%UPnjxf#HAND-HOOKkrnj#obkrnjnq%nq%nxnq#pskrnxnq#HAND-CURLICUEkrnxnqON#H
AND-CUPkrnxnq#qckrnxnq#sokrnxnqOUT(IN(#pskrnxnqvu#HAND-CLAWkrnxnqqt)xf#HAND-HOOKkrnxnqqtOUT)IN)#
qcmavh#obmanjxf#qcmanjxf#obmanjxfnjnc)qt)vu(mavu(BOTHvu(maHINGE&temapy)vu&ll&CURLICUE&wvnjtx#HAN
D-CLAWmanjwvnjtx#obmanjwvnjUNDER&le#HAND-CUPmanj&ot#qcmanjot&ns&&d#somanjOUT&IN&#obnj%HEEL%xfnc&
qt&vu%te%tbmakr&krnx&nxnq%UNDERmdqx%nmmdqx%UNDERkmqx&ljqx%nmljrvKNUCKLES$$HEEL#TOUCHmt$ty$tb#GRA
SPmt$ty$tb#STRIKEmt$ty$tb#BRUSHmt$ty$tb#RUBmt$ty$tb#SURFACE SYMBOLS$tb#SQUEEZEnsmt$dmt$nsty$dty$
SEQUENTIAL#FLICKnsmt$dmt$nsty$dty$SEQUENTIAL#SQUEEZE FLICKph#MOVEMENT-HINGE UPmvns&d%SEQUENTIAL$
mvSEQUENTIAL$UPmvphns(d$xfTOxfSCISSORS#oiFINGER CONTACT#odFINGER CONTACT#oimtpyd&lu&ns&LARGEST%W
RIST FLEX$kbpy%WRIST FLEX%ph&WRIST FLEX$qd$ohpyzy%WRIST FLEX%ph&WRIST FLEX$BENDd%lu%ns$qod%lu%ns
%ROTATION$CHECKd%lu%ns$BOXd%lu%ns$ZIGZAGd%lu%ns$PEAKSd%lu%ns#TRAVEL-WALLPLANEuvmt%kb%ph$uimt%kb%
ph$SHAKING$ARM SPIRALmt&kb&oh#MOVEMENT-DIAGONAL AWAYd%lu%ns%LARGEST$TOWARDSd%lu%ns%LARGEST$tbAWA
Yd&lu&ns&LARGEST%TOWARDSd&lu&ns&LARGEST#odmtpyd&lu&ns&LARGEST%WRIST FLEX$kbpy%WRIST FLEX%ph&WRIS
T FLEX$qd$ohpyzy%WRIST FLEX%phzy&WRIST FLEX$BEND$qod%lu%ns$CHECK$BOXd%lu%ns$ZIGZAGd%lu%ns$PEAKSd
%lu%ns#TRAVEL-FLOORPLANEuimt%kb%ph$uvmt%kb%ph$SHAKING#oiwvpad&lu&ns&LARGEST%HALF-CIRCLEd&lu&ns&L
ARGEST%THREE-QUARTERled(lu$HUMPd%lu%ns$LOOPd%lu%ns%dkb$WAVEwvkbd(lu(ns&ohd(lu(ns$wvTHENpy$CURVED
qdd&lu#uvmt$kb$pf#oiSHAKING$wvpnFRONT WALL$HUMPpnFRONT WALL$LOOPpnFRONT WALL$WAVEpnFRONT WALL#uv
mtpnFRONT WALL$kbpnFRONT WALL$phpnFRONT WALL#oiwvpnCHEST$HUMPpnCHEST$LOOPpnCHEST$WAVEpnCHEST#uvm
tpnCHEST$kbpnCHEST$phpnCHEST#oiWAVEncPATHd(lu(ns#odwvpnCEILINGd(ns$HUMPpnCEILINGdkb(nskb(doh(nso
h$LOOPpnCEILINGdmt(nsmt(dkb(nskb$WAVEpnCEILINGd(ns#uimtpnCEILING$kbpnCEILING$phpnCEILING#odwvpnF
LOORd(ns$HUMPpnFLOORdkb(nskb(ohdoh)nsoh$LOOPpnFLOORdmt(nsmt(dkb(nskb$WAVEpnFLOORd(ns#uimtpnFLOOR
$kbpnFLOOR$phpnFLOOR#odwvd%lu%ns%LARGEST%COMBINED$HUMPd$LOOPd$WAVE SNAKE%d%ns#uimt$kb$ph#odSHAKI
NG PARALLEL#oiARMledmt&lumt&dkb&lukb#odARMlepnWALLdmt)lumt)nsmt)dkb)lukb)nskb#oiWRISTleFRONTmt(k
b#odWRISTlepnWALLmt)kb#oiFINGERvdmt&kb#odFINGERvdpnWALLmt)kb#DYNAMIClcd%ns$FAST$SLOW$TENSE$RELAX
ED$SIMULTANEOUS%ph$EVERY OTHER TIME$GRADUAL#HEAD$RIM$oipy%TILT$odpy$oiwv$odwv$zyle#niDIRECTION P
OSITION NOSEteTILTING(UP ORmv+TILTING#EYEBROWSpyUP%ro%mv#DREAMY EYEBROWSromv%mvro%UPro%roUP#FORE
HEADro$CONTACT$WRINKLED#EYESot$SQUEEZED$qa#EYE BLINKmt%ty#EYESmrot$WIDEot$mrqa$WIDENINGzy#EYE WI
NK#EYELASHES UP$mv$FLUTTERING#EYEGAZE-WALLPLANEpy%kb%ph#EYEGAZE-FLOORPLANEpy%kb%ph#EYEGAZE-WALLP
LANE CURVED#EYEGAZE-FLOORPLANE CURVED#EYEGAZE-WALLPLANE CIRCLING#CHEEKS PUFFED$ro$SUCKED#TENSE C
HEEKSpm%kr%sb#EARS#NOSEro$CONTACT$WRINKLES$WIGGLES#AIR BLOWING OUT$SUCKING IN$BLOWdROTATIONS$SUC
KdROTATIONS#BREATH INHALE$EXHALE#vnqaro%te%CONTACT$SMILE%WRINKLED%ot$FROWN%WRINKLED%ot$otle%te%W
RINKLED%OVAL&WRINKLED&YAWN%RECTANGLE&WRINKLED&YAWN$KISS%te%WRINKLED$TENSE%te%SUCKED#LIPS PRESSE
D TOGETHER#LIPmjnmnh$nhnmmj#vnCORNERS$WRINKLESmt%kb#TONGUE STICKING OUT FAR$LICKING LIPS$TIPtbLI
PS%TOUCHINGtxvn$txvnRELAXED$MOVES AGAINST CHEEK$npSTICKING OUT%txvn#TEETH$zy$ON TONGUE&zy%LIPS&z
y$BITE LIPS#oiJAW#odJAW#NECK#HAIR#EXCITEMENT#SHOULDER HIP SPINE%POSITIONS#WALLPLANE SHOULDER HI
P MOVE#FLOORPLANE SHOULDER HIP MOVE#SHOULDER TILTINGvfWAIST#TORSO-WALLPLANEpySTRETCH$CURVED BEND
#TORSO-FLOORPLANE TWISTING#nhBODY TILTINGvfHIP JOINTS#LIMB COMBINATION$LENGTH-1$LENGTH-2$LENGTH-
3$LENGTH-4$LENGTH-5$LENGTH-6$LENGTH-7#FINGER#LOCATION-WALLPLANEva#LOCATION-FLOORPLANEva#LOCATIO
N HEIGHT$WIDTH$DEPTH$HEAD NECK$TORSO$LIMBS DIGITS#of#rtpr#tn#si#lt@1DA9B#FILL MODIFIER-2$MODIFIE
R-3$MODIFIER-4$MODIFIER-5$MODIFIER-6@1DAA1#ROTATION MODIFIER-2$MODIFIER-3$MODIFIER-4$MODIFIER-5$
MODIFIER-6$MODIFIER-7$MODIFIER-8$MODIFIER-9$MODIFIER-10$MODIFIER-11$MODIFIER-12$MODIFIER-13$MODI
FIER-14$MODIFIER-15$MODIFIER-16@1DF00!pidaFENGqebTRILL%lgsdG#adclwG#dalgK#adcLbBELT#daLEZHbmpll%
lwYbBELT%lgENG%lwRboxLEGkxmpll%Tbllkxmpll#ampCLICKbmpll#daESHbkbpq*kxzq%lwTbzq#alqqfprbzq$STRETC
HED Cbzq$dclwK#daLbFISHHOOK%DEZHqebpxll%LbBELTkxpxll%ENGbpxll%lwRbpxll%RbFISHHOOKkxpxll%TESHqebp
xll%EZHbpxll%DEZHqebmpll%Ibkjkxmpll%Obmpll%TESHqebmpll%Cbmpll%Sbzq@1E000!naGLAGOLITICaAZU%BUKY%V
EDE%GLAGOLI%DOBRO%YESTU%ZHIVETE@1E008%ZEMLJA%IZHE%kfIZHE%I%DJERVI%KAKO%LJUDIJE%MYSLITE%NASHI%ONU
%POKOJI%RITSI%SLOVO%TVRIDO%UKU%FRITU%HERU@1E01B%SHTA%TSI%CHRIVI%tt%YERU%YERI%YATI@1E023%YU%dYUS@
1E026%YO%IOTATEDdYUS%BIG YUS%IOTATED BIG YUS%FITA@1E100!NYIAKENG PUACHUE HMONGaMA&TSA&NTA&TA&HA&
NA&XA&NKA&CA&LA&SA&ZA&NCA&NTSA&KA&DA&up&NRA&VA&NTXA&TXA&FA&RA&QA&YA&NQA&PA&XYA&NPA&DLA&NPLA&sj&M
LA&PLA&GA&RRA&A&AA&I&U&O&OO&E&EE&W@1E130%TONE-B%TONE-M%TONE-J%TONE-V%TONE-S%TONE-G%TONE-D%gFORvp
(THING(LOCATION(ANIMAL(INVERTEBRATE&XW XW%slLENGTHENER@1E140%mhok&mi&md&km&lj&lo&pl&lk&lh&mz@1E1
4E%LOGOGRAM NYAJ%nbCA@1E290!TOTOaPA$BA$TA$DA$KA$GA$MA$NA$ts$SA$uk$YA$WA$JA$HA$RA$LA$I$BREATHY I$
IU$BREATHY IU$U$E$BREATHY E$EO$BREATHY EO$O$AE$BREATHY AE$A#gycpb@1E2C0!WANCHOaAA$A$BA$CA$DA$GA$
YA$wl$LA$NA$PA$TA$vs$FA$SA$tt$JA$ZA$WA$VA$KA$O$AU$RA$MA$uu$HA$E$I$ts$U$LLHA$TSA$TRA$ONG$AANG$ANG
$ING$ON$EN$AAN$up$UEN$YIH#pbTUP$TUPNI$KOI$KOINI#mhok$mi$md$km$lj$lo$pl$lk$lh$mz@1E2FF#NGUNg@1E7E
0!ETHIOPICslHHYA$HHYU$HHYI$HHYAA$HHYEE$HHYE$HHYO@1E7E8$GURAGE HHWA$HHWI$HHWEE$HHWE@1E7ED$GURAG
E MWI%MWEE@1E7F0%QWI%QWEE%QWE%BWI%BWEE%KWI%KWEE%KWE%GWI%GWEE%GWE%FWI%FWEE%PWI%PWEE@1E800!MENDE K
IKAKUIslM001 KI%M002 KA%M003 KU%M065 KEE%M095 KE%M076 KOO%M048 KO%M179 KUA%M004 WI%M005 WA%M00
6 WU%M126 WEE%M118 WE%M114 WOO%M045 WO%M194 WUI%M143 WEI%M061 WVI%M049 WVA%M139 WVE%M007 MIN%M00
8 MAN%M009 MUN%M059 MEN%M094 MON%M154 MUAN%M189 MUEN%M010 BI%M011 BA%M012 BU%M150 BEE%M097 BE%M1
03 BOO%M138 BO%M013 I%M014 A%M015 U%M163 EE%M100 E%M165 OO%M147 O%M137 EI%M131 IN%M135 IN%M195 A
N%M178 EN%M019 SI%M020 SA%M021 SU%M162 SEE%M116 SE%M136 SOO%M079 SO%M196 SIA%M025 LI%M026 LA%M02
7 LU%M084 LEE%M073 LE%M054 LOO%M153 LO%M110oxLE%M016 DI%M017 DA%M018 DU%M089 DEE%M180 DOO%M181 D
O%M022 TI%M023 TA%M024 TU%M091 TEE%M055 TE%M104 TOO%M069 TO%M028 JI%M029 JA%M030 JU%M157 JEE%M11
3 JE%M160 JOO%M063 JO%M175oxJO%M031 YI%M032 YA%M033 YU%M109 YEE%M080 YE%M141 YOO%M121 YO%M034 FI
%M035 FA%M036 FU%M078 FEE%M075 FE%M133 FOO%M088 FO%M197 FUA%M101 FAN%M037 NIN%M038 NAN%M039yl%M1
17 NEN%M169 NON%M176 HI%M041 HA%M186 HU%M040 HEE%M096 HE%M042 HOO%M140 HO%M083 HEEI%M128 HOOU%M0
53 HIN%M130 HAN%M087 HUN%M052 HEN%M193 HON%M046 HUAN%M090 NGGI%M043 NGGA%M082 NGGU%M115 NGGEE%M1
46 NGGE%M156 NGGOO%M120 NGGO%M159 NGGAA%M127 NGGUA%M086oxNGGE%M106oxNGGOO%M183oxNGGO%M155 GI%M11
1 GA%M168 GU%M190 GEE%M166 GUEI%M167 GUAN%M184 NGEN%M057 NGON%M177 NGUAN%M068 PI%M099 PA%M050 PU
%M081 PEE%M051 PE%M102 POO%M066 PO%M145 MBI%M062 MBA%M122 MBU%M047 MBEE%M188 MBEE%M072 MBE%M17
2 MBOO%M174 MBO%M187 MBUU%M161oxMBE%M105oxMBOO%M142oxMBO%M132 KPI%M092 KPA%M074 KPU%M044 KPEE%M1
08 KPE%M112 KPOO%M158 KPO%M124 GBI%M056 GBA%M148 GBU%M093 GBEE%M107 GBE%M071 GBOO%M070 GBO%M17
1 RA%M123 NDI%M129 NDA%M125 NDU%M191 NDEE%M119 NDE%M067 NDOO%M064 NDO%M152 NJA%M192 NJU%M149 NJE
E%M134 NJOO%M182 VI%M185 VA%M151 VU%M173 VEE%M085 VE%M144 VOO%M077 VO%M164 NYIN%M058 NYAN%M170 N
YUN%M098 NYEN%M060 NYON@1E8C7$mhmi%md%km%lj%lo%pl%lk%lh%mz$nangTEENS&TENS&HUNDREDS&xp&taxp&kpxp&
MILLIONS@1E900!ADLAMcaALIF%DAALI%LAAM%MIIM%BA%SINNYIIYHE%PE%BHE%RA%E%FA%I%O%yj%YHE%WAW%yl%KAF%YA
%U%JIIM%CHI%HA%QAAF%GA%up%TU%NHA%VA%uu%GBE%ZAL%KPO%tt#daALIF%DAALI%LAAM%MIIM%BA%SINNYIIYHE%PE%BH
E%RA%E%FA%I%O%yj%YHE%WAW%yl%KAF%YA%U%JIIM%CHI%HA%QAAF%GA%up%TU%NHA%VA%uu%GBE%ZAL%KPO%tt#ALIF LEN
GTHENER#mcLENGTHENER#GEMINATIONkz#rn#pgon#GEMINATEpgon#tz#NASALIZATIONkz@1E950#mhok$mi$md$km$lj$
lo$pl$lk$lh$mz@1E95E#kfnokz$orkz@1EC71!INDIC SIYAQngmi%md%km%lj%lo%pl%lk%lh%mz%ta%pc%sx%ww%sa%ye
%ov%wb%pp%mikp%mdkp%kmkp%ljkp%lokp%plkp%lkkp%lhkp%mzkp%mikq%mdkq%kmkq%ljkq%lokq%plkq%lkkq%lhkq%m
zkq%takq%pckq%sxkq%wwkq%sakq%yekq%ovkq%wbkq%ppkq%LAKH%LAKHAN$LAKHkz$ngKAROR%KARORAN%PREFIXEDmi&m
d&km&lj&lo&pl&lk&lh&mz$PLACEHOLDER$rgmipa&mr%kmsw$RUPEEkz$ngpfmi&md&takq$pfLAKHkz@1ED01!OTTOMA
N SIYAQngmi%md%km%lj%lo%pl%lk%lh%mz%ta%pc%sx%ww%sa%ye%ov%wb%pp%mikp%mdkp%kmkp%ljkp%lokp%plkp%lkk
p%lhkp%mzkp%mikq%mdkq%kmkq%ljkq%lokq%plkq%lkkq%lhkq%mzkq%takq%pckq%sxkq%wwkq%sakq%yekq%ovkq%wbkq
%ppkq$MARRATAN$pfngmd&km&lj&lo&pl&lk&lh&mz&ta&ljkp&plkp&mdkq&takq$rgmimr&SIXTH@1EE00!tvxcnr$BEH$
ow$DAL@1EE05$WAW$ZAIN$sj$TAH$qv$KAF$LAM$mk$tp$ws$AIN$FEH$SAD$QAF$REH$wm$TEH$THEH$rl$THAL$DAD$ZAH
$xz$uoBEH%tp%FEH%QAF@1EE21$kfBEH%ow@1EE24%HEH@1EE27%sj@1EE29%qv%KAF%LAM%mk%tp%ws%AIN%FEH%SAD%QAF
@1EE34%wm%TEH%THEH%rl@1EE39%DAD@1EE3B%xz@1EE42$TAILEDow@1EE47%sj@1EE49%qv@1EE4B%LAM@1EE4D%tp%ws%
AIN@1EE51%SAD%QAF@1EE54%wm@1EE57%rl@1EE59%DAD@1EE5B%xz@1EE5D%uotp@1EE5F&QAF@1EE61$STRETCHED BEH%
ow@1EE64%HEH@1EE67%sj%TAH%qv%KAF@1EE6C%mk%tp%ws%AIN%FEH%SAD%QAF@1EE74%wm%TEH%THEH%rl@1EE79%DAD%Z
AH%xz%uoBEH@1EE7E&FEH@1EE80$LOOPEDnr%BEH%ow%DAL%HEH%WAW%ZAIN%sj%TAH%qv@1EE8B%LAM%mk%tp%ws%AIN%FE
H%SAD%QAF%REH%wm%TEH%THEH%rl%THAL%DAD%ZAH%xz@1EEA1$rdBEH%ow%DAL@1EEA5%WAW%ZAIN%sj%TAH%qv@1EEAB%L
AM%mk%tp%ws%AIN%FEH%SAD%QAF%REH%wm%TEH%THEH%rl%THAL%DAD%ZAH%xz@1EEF0$nemkbsjbTATWEEL%sjbDAL@1F00
0!MAHJONG TILEqpWIND$qlWIND$rmWIND$puWIND$RED DRAGON$GREEN DRAGON$ksDRAGON$miOFus$mdOFus$kmOFus$
ljOFus$loOFus$plOFus$lkOFus$lhOFus$mzOFus$miOF BAMBOOS$mdOF BAMBOOS$kmOF BAMBOOS$ljOF BAMBOOS$lo
OF BAMBOOS$plOF BAMBOOS$lkOF BAMBOOS$lhOF BAMBOOS$mzOF BAMBOOS$miOFvd$mdOFvd$kmOFvd$ljOFvd$loOFv
d$plOFvd$lkOFvd$lhOFvd$mzOFvd$PLUM$ORCHID$BAMBOO$CHRYSANTHEMUM$SPRING$SUMMER$AUTUMN$WINTER$JOKER
$BACK@1F030!DOMINO TILEkiBACK$HORIZONTAL-00-00$HORIZONTAL-00-01$HORIZONTAL-00-02$HORIZONTAL-00-0
3$HORIZONTAL-00-04$HORIZONTAL-00-05$HORIZONTAL-00-06$HORIZONTAL-01-00$HORIZONTAL-01-01$HORIZONTA
L-01-02$HORIZONTAL-01-03$HORIZONTAL-01-04$HORIZONTAL-01-05$HORIZONTAL-01-06$HORIZONTAL-02-00$HOR
IZONTAL-02-01$HORIZONTAL-02-02$HORIZONTAL-02-03$HORIZONTAL-02-04$HORIZONTAL-02-05$HORIZONTAL-02-
06$HORIZONTAL-03-00$HORIZONTAL-03-01$HORIZONTAL-03-02$HORIZONTAL-03-03$HORIZONTAL-03-04$HORIZONT
AL-03-05$HORIZONTAL-03-06$HORIZONTAL-04-00$HORIZONTAL-04-01$HORIZONTAL-04-02$HORIZONTAL-04-03$HO
RIZONTAL-04-04$HORIZONTAL-04-05$HORIZONTAL-04-06$HORIZONTAL-05-00$HORIZONTAL-05-01$HORIZONTAL-05
-02$HORIZONTAL-05-03$HORIZONTAL-05-04$HORIZONTAL-05-05$HORIZONTAL-05-06$HORIZONTAL-06-00$HORIZON
TAL-06-01$HORIZONTAL-06-02$HORIZONTAL-06-03$HORIZONTAL-06-04$HORIZONTAL-06-05$HORIZONTAL-06-06$k
dBACK$VERTICAL-00-00$VERTICAL-00-01$VERTICAL-00-02$VERTICAL-00-03$VERTICAL-00-04$VERTICAL-00-05$
VERTICAL-00-06$VERTICAL-01-00$VERTICAL-01-01$VERTICAL-01-02$VERTICAL-01-03$VERTICAL-01-04$VERTIC
AL-01-05$VERTICAL-01-06$VERTICAL-02-00$VERTICAL-02-01$VERTICAL-02-02$VERTICAL-02-03$VERTICAL-02-
04$VERTICAL-02-05$VERTICAL-02-06$VERTICAL-03-00$VERTICAL-03-01$VERTICAL-03-02$VERTICAL-03-03$VER
TICAL-03-04$VERTICAL-03-05$VERTICAL-03-06$VERTICAL-04-00$VERTICAL-04-01$VERTICAL-04-02$VERTICAL-
04-03$VERTICAL-04-04$VERTICAL-04-05$VERTICAL-04-06$VERTICAL-05-00$VERTICAL-05-01$VERTICAL-05-02$
VERTICAL-05-03$VERTICAL-05-04$VERTICAL-05-05$VERTICAL-05-06$VERTICAL-06-00$VERTICAL-06-01$VERTIC
AL-06-02$VERTICAL-06-03$VERTICAL-06-04$VERTICAL-06-05$VERTICAL-06-06@1F0A0!PLAYING CARD BACK$AC
E OFwt$mdOFwt$kmOFwt$ljOFwt$loOFwt$plOFwt$lkOFwt$lhOFwt$mzOFwt$taOFwt$JACK OFwt$riOFwt$ytOFwt$KI
NG OFwt@1F0B1$ACE OFut$mdOFut$kmOFut$ljOFut$loOFut$plOFut$lkOFut$lhOFut$mzOFut$taOFut$JACK OFut$
riOFut$ytOFut$KING OFut$RED JOKER@1F0C1$ACE OFtl$mdOFtl$kmOFtl$ljOFtl$loOFtl$plOFtl$lkOFtl$lhOFt
l$mzOFtl$taOFtl$JACK OFtl$riOFtl$ytOFtl$KING OFtl$knJOKER@1F0D1$ACE OF CLUBS$mdOF CLUBS$kmOF CLU
BS$ljOF CLUBS$loOF CLUBS$plOF CLUBS$lkOF CLUBS$lhOF CLUBS$mzOF CLUBS$taOF CLUBS$JACK OF CLUBS$ri
OF CLUBS$ytOF CLUBS$KING OF CLUBS$ksJOKER$FOOL$TRUMP-1$TRUMP-2$TRUMP-3$TRUMP-4$TRUMP-5$TRUMP-6$T
RUMP-7$TRUMP-8$TRUMP-9$TRUMP-10$TRUMP-11$TRUMP-12$TRUMP-13$TRUMP-14$TRUMP-15$TRUMP-16$TRUMP-17$T
RUMP-18$TRUMP-19$TRUMP-20$TRUMP-21@1F100!mhokrtpr$of#miof#mdof#kmof#ljof#loof#plof#lkof#lhof#mzo
f!DINGBATnbojmhok#sunbojmhok!nbokbyx#ocf#DOLLARgbOVERLAIDzo!PARENTHESIZEDpicaA&B&C&D&E&F&G&H&I&J
&K&L&M&N&O&P&Q&R&S&T&U&V&W&X&Y&Z!ruuhBRACKETEDpicaS!nbITALICpicaC(R#CD#WZ!COPYLEFTkl!oqpicaA&B&C
&D&E&F&G&H&I&J&K&L&M&N&O&P&Q&R&S&T&U&V&W&X&Y&Z#HV#MV#SD#SS#PPV#WC!sunbpicaA(B(C(D(E(F(G(H(I(J(K(
L(M(N(O(P(Q(R(S(T(U(V(W(X(Y(Z!rvMCg#MDg#MRg!nbCC#CbOVERLAIDzo#HUMAN FIGURE!suoqpicaA(B(C(D(E(F(G
(H(I(J(K(L(M(N(O(P(Q(R(S(T(U(V(W(X(Y(Z!vesuoqpicaP!suoqIC$PA$SA$AB$WC!ldDJ!oqCL#COOL#FREE#ID#NEW
#NG#OK#SOS#UPbnokz#VS#kmD#SECOND SCREEN#mdK#ljK#lhK#loPOINTmi#lkPOINTmi#TWENTY-TWO POINTmd#yeP#m
ikppcP#pidaD#HC#HDR#HI-RES#LOSSLESS#SHV#UHD#VOD!MASK WORKkl@1F1E6!REGIONALxmklaA&B&C&D&E&F&G&H&I
&J&K&L&M&N&O&P&Q&R&S&T&U&V&W&X&Y&Z!ldHIRAGANA HOKA!oqvjKOKO$SA@1F210#CJK UNIFIED IDEOGRAPH-624B%
IDEOGRAPH-5B57%IDEOGRAPH-53CC#vjDE#CJK UNIFIED IDEOGRAPH-4E8C%IDEOGRAPH-591A%IDEOGRAPH-89E3%IDEO
GRAPH-5929%IDEOGRAPH-4EA4%IDEOGRAPH-6620%IDEOGRAPH-7121%IDEOGRAPH-6599%IDEOGRAPH-524D%IDEOGRAPH-
5F8C%IDEOGRAPH-518D%IDEOGRAPH-65B0%IDEOGRAPH-521D%IDEOGRAPH-7D42%IDEOGRAPH-751F%IDEOGRAPH-8CA9%I
DEOGRAPH-58F0%IDEOGRAPH-5439%IDEOGRAPH-6F14%IDEOGRAPH-6295%IDEOGRAPH-6355%IDEOGRAPH-4E00%IDEOGRA
PH-4E09%IDEOGRAPH-904A%IDEOGRAPH-5DE6%IDEOGRAPH-4E2D%IDEOGRAPH-53F3%IDEOGRAPH-6307%IDEOGRAPH-8D7
0%IDEOGRAPH-6253%IDEOGRAPH-7981%IDEOGRAPH-7A7A%IDEOGRAPH-5408%IDEOGRAPH-6E80%IDEOGRAPH-6709%IDEO
GRAPH-6708%IDEOGRAPH-7533%IDEOGRAPH-5272%IDEOGRAPH-55B6%IDEOGRAPH-914D@1F240!ruuhBRACKETED CJK U
NIFIED IDEOGRAPH-672C(IDEOGRAPH-4E09(IDEOGRAPH-4E8C(IDEOGRAPH-5B89(IDEOGRAPH-70B9(IDEOGRAPH-6253
(IDEOGRAPH-76D7(IDEOGRAPH-52DD(IDEOGRAPH-6557@1F250!nbIDEOGRAPH ADVANTAGE$ACCEPT@1F260!yuklFOR F
U%LU%SHOU%XI%SHUANGXI%CAI@1F300!CYCLONE!FOGGY!qaUMBRELLA!NIGHTbSTARS!SUNRISEnmMOUNTAINS#!CITYSCA
PE AT DUSK!SUNSETnmBUILDINGS!RAINBOW!BRIDGE AT NIGHT!WATER WAVE!VOLCANO!MILKY WAY!EARTH GLOBE EU
ROPE-AFRICA$AMERICAS$ASIA-AUSTRALIA!GLOBEbMERIDIANS!NEWxdkl!WAXING CRESCENTxdkl!FIRSTpaxdkl!WAXI
NG GIBBOUSxdkl!rtxdkl!WANING GIBBOUSxdkl!LASTpaxdkl!WANING CRESCENTxdkl!CRESCENTxd!NEWxdbni!FIRS
Tpaxdbni!LASTpaxdbni!rtxdbni!SUNbni!GLOWINGqw!SHOOTINGqw!THERMOMETER!knDROPLET!ksSUN$bdCLOUD$BEH
IND CLOUD&bRAIN!CLOUDbRAIN$SNOW$LIGHTNING$TORNADO!FOG!WIND BLOWINGni!HOT DOG!TACO!BURRITO!CHESTN
UT!SEEDLING!EVERGREEN TREE!DECIDUOUS TREE!PALM TREE!CACTUS!HOT PEPPER!TULIP!CHERRY BLOSSOM!ROSE!
HIBISCUS!SUNFLOWER!BLOSSOM!EAR OF MAIZE$RICE!HERB!ljzwCLOVER!MAPLEzw!FALLENzw!zwFLUTTERING IN WI
ND!MUSHROOM!TOMATO!AUBERGINE!GRAPES!MELON!WATERMELON!TANGERINE!LEMON!BANANA!PINEAPPLE!RED APPLE!
GREEN APPLE!PEAR!PEACH!CHERRIES!STRAWBERRY!HAMBURGER!SLICE OF PIZZA!MEAT ON BONE!POULTRY LEG!RIC
E CRACKER#BALL!COOKED RICE!CURRYkxRICE!STEAMING BOWL!SPAGHETTI!BREAD!FRENCH FRIES!ROASTED SWEE
T POTATO!DANGO!ODEN!SUSHI!FRIED SHRIMP!FISH CAKEbSWIRL DESIGN!SOFT ICE CREAM!SHAVED ICE!ICE CREA
M!DOUGHNUT!COOKIE!CHOCOLATEpq!CANDY!LOLLIPOP!CUSTARD!HONEY POT!SHORTCAKE!BENTO BOX!POT OF FOOD!C
OOKING!FORKkxKNIFE!TEACUP WITHOUT HANDLE!SAKE BOTTLEkxCUP!WINE GLASS!COCKTAIL GLASS!TROPICAL DRI
NK!BEER MUG!CLINKING BEER MUGS!BABY BOTTLE!FORKkxKNIFEbPLATE!BOTTLEbPOPPING CORK!POPCORN!RIBBON!
WRAPPED PRESENT!BIRTHDAY CAKE!JACK-O-LANTERN!CHRISTMAS TREE!FATHER CHRISTMAS!FIREWORKS!FIREWOR
K SPARKLER!BALLOON!PARTY POPPER!CONFETTI BALL!TANABATA TREE!veFLAGS!PINE DECORATION!JAPANESE DOL
LS!CARP STREAMER!WIND CHIME!xdVIEWING CEREMONY!SCHOOL SATCHEL!GRADUATION CAP!stbTIP ON THEkk!BOU
QUET OF FLOWERS!MILITARY MEDAL!REMINDER RIBBON!wiKEYBOARDbJACKS!STUDIO MICROPHONE!LEVEL SLIDER!C
ONTROL KNOBS!BEAMED ASCENDINGwiNOTES#DESCENDINGwiNOTES!FILM FRAMES!ADMISSION TICKETS!CAROUSEL HO
RSE!FERRIS WHEEL!ROLLER COASTER!FISHING POLEkxFISH!MICROPHONE!MOVIE CAMERA!CINEMA!HEADPHONE!ARTI
ST PALETTE!TOP HAT!CIRCUS TENT!TICKET!CLAPPER BOARD!PERFORMING ARTS!VIDEO GAME!DIRECT HIT!SLOT M
ACHINE!BILLIARDS!GAME DIE!BOWLING!FLOWER PLAYING CARDS!wiNOTE!tywiNOTES!SAXOPHONE!GUITAR!wiKEYBO
ARD!TRUMPET!VIOLIN!wiSCORE!RUNNING SHIRTbSASH!TENNIS RACQUETkxBALL!SKIkxSKI BOOT!BASKETBALLkxHOO
P!CHEQUERED FLAG!SNOWBOARDER!RUNNER!SURFER!SPORTS MEDAL!TROPHY!HORSE RACING!AMERICAN FOOTBALL!RU
GBY FOOTBALL!SWIMMER!WEIGHT LIFTER!GOLFER!RACING MOTORCYCLE#CAR!CRICKET BATkxBALL!VOLLEYBALL!FIE
LD HOCKEY STICKkxBALL!ICE HOCKEY STICKkxPUCK!TABLE TENNIS PADDLEkxBALL!SNOW CAPPEDzx!CAMPING!BEA
CHbUMBRELLA!BUILDING CONSTRUCTION!HOUSE BUILDINGS!CITYSCAPE!DERELICT HOUSE BUILDING!CLASSICAL BU
ILDING!DESERT#ISLAND!NATIONAL PARK!STADIUM!HOUSE BUILDING#bGARDEN!OFFICE BUILDING!JAPANESE POS
T OFFICE!EUROPEAN POST OFFICE!HOSPITAL!BANK!AUTOMATED TELLER MACHINE!HOTEL!LOVE HOTEL!CONVENIENC
E STORE!SCHOOL!DEPARTMENT STORE!FACTORY!IZAKAYA LANTERN!JAPANESE CASTLE!EUROPEAN CASTLE!ksPENNAN
T!knPENNANT!WAVINGksFLAG#knFLAG!ROSETTE!knROSETTE!LABEL!BADMINTON RACQUETkxSHUTTLECOCK!BOWkxf!AM
PHORA!EMOJIonFITZPATRICK TYPE-1-2%TYPE-3%TYPE-4%TYPE-5%TYPE-6!RAT!MOUSE!OX!WATER BUFFALO!COW!TIG
ER!LEOPARD!RABBIT!CAT!DRAGON!CROCODILE!WHALE!SNAIL!SNAKE!HORSE!RAM!GOAT!SHEEP!MONKEY!ROOSTER!CHI
CKEN!DOG!PIG!BOAR!ELEPHANT!OCTOPUS!SPIRALuh!BUG!ANT!HONEYBEE!LADY BEETLE!FISH!TROPICAL FISH!BLOW
FISH!TURTLE!HATCHING CHICK!BABY CHICK!FRONT-FACING BABY CHICK!BIRD!PENGUIN!KOALA!POODLE!DROMEDAR
Y CAMEL!BACTRIAN CAMEL!DOLPHIN!MOUSEni!COWni!TIGERni!RABBITni!CATni!DRAGONni!SPOUTING WHALE!HORS
Eni!MONKEYni!DOGni!PIGni!FROGni!HAMSTERni!WOLFni!BEARni!PANDAni!PIG NOSE!PAW PRINTS!CHIPMUNK!EYE
S!EYE!EAR!NOSE!vn!TONGUE!ksUPlrznma#mvlrznma#kklrznma#hlrznma!FISTEDvgg!WAVINGvgg!OKvgg!THUMBS U
Pg#mvg!CLAPPING HANDSg!otHANDSg!CROWN!WOMANS HAT!EYEGLASSES!NECKTIE!T-SHIRT!JEANS!DRESS!KIMONO!B
IKINI!WOMANS CLOTHES!PURSE!HANDBAG!POUCH!MANS SHOE!ATHLETIC SHOE!HIGH-HEELED SHOE!WOMANS SANDAL#
BOOTS!FOOTPRINTS!BUST IN SILHOUETTE!BUSTS IN SILHOUETTE!BOY!GIRL!MAN!WOMAN!FAMILY!MANkxWOMAN HOL
DING HANDS!mdMEN HOLDING HANDS#WOMEN HOLDING HANDS!POLICE OFFICER!WOMANbBUNNY EARS!BRIDEbVEIL!vp
bBLOND HAIR!MANbGUA PI MAO$TURBAN!OLDER MAN#WOMAN!BABY!CONSTRUCTION WORKER!PRINCESS!JAPANESE OGR
E#GOBLIN!GHOST!BABY ANGEL!EXTRATERRESTRIAL ALIEN!ALIEN MONSTER!IMP!SKULL!INFORMATION DESKvp!GUAR
DSMAN!DANCER!LIPSTICK!NAIL POLISH!niMASSAGE!HAIRCUT!BARBER POLE!SYRINGE!PILL!KISSkz!LOVEa!nx!GE
M STONE!KISS!BOUQUET!COUPLEbst!WEDDING!BEATINGst!BROKENst!mdut!SPARKLINGst!GROWINGst!stbf!BLUEst
!GREENst!YELLOWst!PURPLEst!stbRIBBON!REVOLVINGut!stDECORATION!nySHAPEbAmmtx!ELECTRICmbBULB!ANGER
kl!BOMB!SLEEPINGkl!COLLISIONkl!SPLASHING SWEATkl!DROPLET!tdkl!PILE OF POO!FLEXED BICEPS!DIZZYkl!
SPEECH BALLOON!THOUGHT BALLOON!ksFLOWER!kpPOINTSkl!MONEY BAG!CURRENCY EXCHANGE!lbDOLLARg!CREDI
T CARD!BANKNOTEbYENg$DOLLARg$EUROg$POUNDg!MONEYbWINGS!CHARTblfTRENDkxYENg!SEAT!PERSONAL COMPUTER
!BRIEFCASE!MINIDISC!FLOPPY DISK!OPTICAL DISC!DVD!FILE FOLDER!otFILE FOLDER!PAGEbzq#FACING UP!CAL
ENDAR!TEAR-OFF CALENDAR!CARDma!CHARTblfTREND$koTREND!pqCHART!CLIPBOARD!PUSHPIN!ROUND PUSHPIN!PAP
ERCLIP!pyRULER!osRULER!BOOKMARK TABS!LEDGER!NOTEBOOK#bDECORATIVE COVER!qaBOOK!otBOOK!GREEN BOOK!
BLUE BOOK!ORANGE BOOK!BOOKS!NAME BADGE!SCROLL!MEMO!toRECEIVER!PAGER!FAX MACHINE!SATELLITE ANTENN
A!PUBLIC ADDRESS LOUDSPEAKER!CHEERING MEGAPHONE!OUTBOX TRAY!INBOX TRAY!PACKAGE!E-MAILkl!INCOMING
xy!xybkofi!qaMAILBOXbLOWERED FLAG%rvFLAG!otMAILBOXbrvFLAG%LOWERED FLAG!POSTBOX!POSTALul!NEWSPAPE
R!MOBILE PHONE$bkafATkk!VIBRATION MODE!MOBILE PHONE OFF!NO MOBILE PHONES!ANTENNAbBARS!CAMERA#bFL
ASH!VIDEO CAMERA!TELEVISION!RADIO!VIDEOCASSETTE!FILM PROJECTOR!PORTABLE STEREO!PRAYER BEADS!TWIS
TEDkavc!sskakxkcotlevc*bnbmire#kokxlfotlevc!ockokxlfotlevc!sbBRIGHTNESSkl!pmBRIGHTNESSkl!SPEAKER
bCANCELLATIONkj##bmiyfWAVE$kmyfWAVES!BATTERY!ELECTRIC PLUG!ntMAGNIFYING GLASS!msMAGNIFYING GLASS
!LOCKbINK PEN!qaLOCKbKEY!KEY!LOCK!otLOCK!BELL#bCANCELLATIONkj!BOOKMARK!LINKkl!RADIO BUTTON!BACKb
kcfi!ENDbkcfi!ONbnokzbkkhfi!SOONbkafi!TOPblffi!NOmiUNDERxxkl!KEYCAPta!INPUTklFORpicLETTERS&dLETT
ERS%NUMBERS%SYMBOLS%piLETTERS!FIRE!ELECTRIC TORCH!WRENCH!HAMMER!NUTkxBOLT!HOCHO!PISTOL!MICROSCOP
E!TELESCOPE!CRYSTAL BALL!plopqwbkrmm!JAPANESEklFOR BEGINNER!TRIDENT EMBLEM!knldBUTTON!ksldBUTTON
!nsREDle#BLUEle#ORANGEny#BLUEny!dORANGEny#BLUEny!quREDkw!qrREDkw!qudREDkw!qrdREDkw!mjhubksle!nhh
ubksle!nbqdPOMMEE!qdPOMMEEbHALF-CIRCLEkg$!NOTCHEDkkSEMICIRCLEbkmnk#hSEMICIRCLEbkmnk!klFOR MARK
S CHAPTER!kspiqd!lbpiqd!CELTICqd!OMkl!DOVE OF PEACE!KAABA!MOSQUE!SYNAGOGUE!MENORAHbmzBRANCHES!BO
WL OF HYGIEIA!CLOCKnimizj$mdzj$kmzj$ljzj$lozj$plzj$lkzj$lhzj$mzzj$tazj$zezj$wuzj$ONE-THIRTY$TWO-
THIRTY$THREE-THIRTY$FOUR-THIRTY$FIVE-THIRTY$SIX-THIRTY$SEVEN-THIRTY$EIGHT-THIRTY$NINE-THIRTY$TEN
-THIRTY$ELEVEN-THIRTY$TWELVE-THIRTY!hSPEAKER$bmiyfWAVE%kmyfWAVES!BULLHORN#byfWAVES!RINGING BELL!
BOOK!CANDLE!MANTELPIECE CLOCK!knSKULLkxCROSSBONES!NO PIRACY!HOLE!MAN IN BUSINESS SUIT LEVITATING
!SLEUTH OR SPY!DARK SUNGLASSES!SPIDER#WEB!JOYSTICK!MAN DANCING!kkvgtoRECEIVER!toRECEIVERbPAGE!hv
gtoRECEIVER!ksTOUCHTONEto!knTOUCHTONEto!toON TOP OF MODEM!CLAMSHELL MOBILE PHONE!BACK OFxy!STAMP
EDxy!xybLIGHTNING!FLYINGxy!PENnmSTAMPEDxy!LINKED PAPERCLIPS!knPUSHPIN!mjkkPENCIL$BALLPOINT PEN$F
OUNTAIN PEN$PAINTBRUSH$CRAYON!kkWRITINGvg!lwOKvgg!rvvgbqxSPLAYED!lgrvvgbqxSPLAYED#THUMBS UPg$mvg
#VICTORYvg#vgbkrFINGERzu!rvvgbPARTtbkrkxnxqx!ksmvlrkkvgma!ydkskklrma$hlrma#knkklrma$hlrma!knkklr
znma#hlrznma!ydksUPlrma$mvlrma#knUPlrma$mvlrma!knUPlrznma#mvlrznma#st!DESKTOP COMPUTER!KEYBOARDk
xMOUSE!kmNETWORKED COMPUTERS!PRINTER!POCKET CALCULATOR!knHARDuhFLOPPY DISK!ksHARDuhFLOPPY DISK!S
OFTuhFLOPPY DISK!TAPE CARTRIDGE!WIRED KEYBOARD!miBUTTON MOUSE!mdBUTTON MOUSE!kmBUTTON MOUSE!TRAC
KBALL!wqPERSONAL COMPUTER!HARD DISK!SCREEN!PRINTER ICON!FAX ICON!OPTICAL DISC ICON!DOCUMENTbTEXT
%kxPICTURE$PICTURE!FRAMEbPICTURE$TILES$AN X!knFOLDER!FOLDER!otFOLDER!CARDmaDIVIDERS#FILE BOX!FIL
E CABINET!EMPTY NOTE$PAGE$PAD!NOTE#PAGE#PAD!EMPTY DOCUMENT#PAGE#PAGES!DOCUMENT!PAGE!PAGES!WASTEB
ASKET!SPIRAL NOTE PAD#CALENDAR PAD!DESKTOP WINDOW!MINIMIZE!MAXIMIZE!OVERLAP!sshkxkkSEMICIRCLEvc!
CANCELLATION X!INCREASE FONT SIZEkl!DECREASE FONT SIZEkl!COMPRESSION!wqKEY!ROLLED-UP NEWSPAPER!P
AGEbnbTEXT!STOCK CHART!DAGGER KNIFE!LIPS!SPEAKING HEAD IN SILHOUETTE!kmRAYSi$kg$kk$h!kkSPEECH BU
BBLE!hSPEECH BUBBLE!mdSPEECH BUBBLES!kmSPEECH BUBBLES!kkTHOUGHT BUBBLE!hTHOUGHT BUBBLE!kkANGER B
UBBLE!hANGER BUBBLE!MOOD BUBBLE!LIGHTNING MOOD BUBBLE$!BALLOT BOXbBALLOT#sdX#BOXbsdX#vxsdX#BOXbv
xsdX!mbCHECKkz!BALLOT BOXbvxCHECK!WORLD MAP!MOUNT FUJI!TOKYO TOWER!STATUE OF LIBERTY!SILHOUETT
E OF JAPAN!MOYAI!GRINNINGni$btgEYES!nibTEARS OF JOY!tgnibotvn(kxtgEYES)COLD SWEAT)TIGHTLY-CLOSE
D EYES%HALO%HORNS!WINKINGni!tgnibtgEYES!niSAVOURING DELICIOUS FOOD!RELIEVEDni!tgnibHEART-SHAPE
D EYES%SUNGLASSES!SMIRKINGni!roni!EXPRESSIONLESSni!UNAMUSEDni!nibCOLD SWEAT!PENSIVEni!CONFUSEDni
!CONFOUNDEDni!KISSINGni!niTHROWING A KISS!KISSINGnibtgEYES%qaEYES!nibSTUCK-OUT TONGUE&kxWINKIN
G EYE(TIGHTLY-CLOSED EYES!DISAPPOINTEDni!WORRIEDni!ANGRYni!POUTINGni!CRYINGni!PERSEVERINGni!nibL
OOK OF TRIUMPH!DISAPPOINTED BUT RELIEVEDni!FROWNINGnibotvn!ANGUISHEDni!FEARFULni!WEARYni!SLEEPYn
i!TIREDni!GRIMACINGni!LOUDLY CRYINGni!nibotvn!HUSHEDni!nibotvnkxCOLD SWEAT#SCREAMING IN FEAR!AST
ONISHEDni!FLUSHEDni!SLEEPINGni!DIZZYni!niWITHOUTvn#bMEDICAL MASK!GRINNING CATnibtgEYES!CATnibTEA
RS OF JOY!tgCATnibotvn&HEART-SHAPED EYES!CATnibWRY SMILE!KISSING CATnibqaEYES!POUTING CATni!CRYI
NG CATni!WEARY CATni!SLIGHTLY FROWNINGni#tgni!UPSIDE-DOWNni!nibROLLING EYES$NO GOOD GESTURE$OK G
ESTURE!vpBOWING DEEPLY!SEE-NO-EVIL MONKEY!HEAR-NO-EVIL MONKEY!SPEAK-NO-EVIL MONKEY!HAPPYvpRAISIN
Gmivg!vpRAISING BOTH HANDS IN CELEBRATION#FROWNING#bPOUTINGni$FOLDED HANDS!purmlrzw!qlrmlrzw!puq
plrzw!qlqplrzw!lwpurmlrzw#qlrmlrzw#puqplrzw#qlqplrzw!purmlrVINEzw!qlrmlrVINEzw!puqplrVINEzw!qlqp
lrVINEzw!lbpurmlrVINEzw#qlrmlrVINEzw#puqplrVINEzw#qlqplrVINEzw!purmlrBUD!qlrmlrBUD!puqplrBUD!qlq
plrBUD!lbpurmlrBUD#qlrmlrBUD#puqplrBUD#qlqplrBUD!HOLLOW QUILTldme&INknld!SOLID QUILTldme&INknld!
kcROCKET!lfROCKET!kaROCKET!koROCKET!sdnzETme!lbsdnzETme!nzotETme!lbnzotETme#xime!SWASHxime!ojlbk
blwofnwkzme%ofnwkzme$sbkbofnwkzme!lbINTERROBANGme!ojINTERROBANGme!lbojINTERROBANGme!wplbqz$rwqz!
CHECKER BOARD!rwCHECKER BOARD!ROCKET!HELICOPTER!STEAM LOCOMOTIVE!RAILWAY CAR!HIGH-SPEED TRAIN$bw
rNOSE!TRAIN!METRO!mbRAIL!STATION!TRAM#CAR!BUS!ONCOMING BUS!TROLLEYBUS!BUSpr!MINIBUS!AMBULANCE!FI
RE ENGINE!POLICE CAR!ONCOMING POLICE CAR!TAXI!ONCOMING TAXI!AUTOMOBILE!ONCOMING AUTOMOBILE!RECRE
ATIONAL VEHICLE!DELIVERY TRUCK!ARTICULATED LORRY!TRACTOR!MONORAIL!zxRAILWAY!SUSPENSION RAILWAY!z
xCABLEWAY!AERIAL TRAMWAY!SHIP!ROWBOAT!SPEEDBOAT!kiTRAFFICmb!kdTRAFFICmb!CONSTRUCTIONg!POLICE CAR
S REVOLVINGmb!osFLAG ON POST!DOOR!NO ENTRYg!SMOKINGkl!NO SMOKINGkl!PUT LITTER IN ITS PLACEkl!DOv
tLITTERkl!POTABLE WATERkl!NON-POTABLE WATERkl!BICYCLE!NO BICYCLES!BICYCLIST!zxBICYCLIST!PEDESTRI
AN!NO PEDESTRIANS!CHILDRENog!MENSkl!WOMENSkl!RESTROOM!BABYkl!TOILET!WATER CLOSET!SHOWER!BATH!BAT
HTUB!PASSPORT CONTROL!CUSTOMS!BAGGAGE CLAIM!kkLUGGAGE!kwbyuCORNERS!PROHIBITEDg!nbINFORMATION SOU
RCE!BOYSkl!GIRLSkl!COUCHkxLAMP!SLEEPING ACCOMMODATION!SHOPPING BAGS!BELLHOP BELL!BED!PLACE OF WO
RSHIP!OCTAGONALg!SHOPPING TROLLEY!STUPA!PAGODA!HINDU TEMPLE!HUT!ELEVATOR@1F6DD!PLAYGROUND SLIDE!
WHEEL!nxBUOY!HAMMERkxWRENCH!SHIELD!OIL DRUM!MOTORWAY!RAILWAY TRACK!MOTOR BOAT!quMILITARY AIRPLAN
E#AIRPLANE#dAIRPLANE!dAIRPLANE!NORTHEAST-POINTING AIRPLANE!AIRPLANE DEPARTURE#ARRIVING@1F6F0!SAT
ELLITE!ONCOMING FIRE ENGINE!DIESEL LOCOMOTIVE!PASSENGER SHIP!SCOOTER!MOTOR SCOOTER!CANOE!SLED!FL
YING SAUCER!SKATEBOARD!AUTO RICKSHAW!PICKUP TRUCK!ROLLER SKATE@1F700!ALCHEMICALklFOR QUINTESSENC
E%AIR%FIRE%EARTH%WATER%AQUAFORTIS%AQUA REGIA&REGIA-2&VITAE&VITAE-2%VINEGAR%VINEGAR-2%VINEGAR-3%S
ULFUR%PHILOSOPHERS SULFUR%knSULFUR%MERCURY SUBLIMATE&SUBLIMATE-2&SUBLIMATE-3%CINNABAR%SALT%NITRE
%VITRIOL%VITRIOL-2%ROCK SALT&SALT-2%GOLD%SILVER%IRON ORE&ORE-2%CROCUS OF IRON%REGULUS OF IRON%CO
PPER ORE%IRON-COPPER ORE%SUBLIMATE OF COPPER%CROCUS OF COPPER(COPPER-2%COPPER ANTIMONIATE%SALT O
F COPPER ANTIMONIATE%SUBLIMATE OF SALT OF COPPER%VERDIGRIS%TIN ORE%LEAD ORE%ANTIMONY ORE%SUBLIMA
TE OF ANTIMONY%SALT OF ANTIMONY%SUBLIMATE OF SALT OF ANTIMONY%VINEGAR OF ANTIMONY%REGULUS OF ANT
IMONY(ANTIMONY-2&%REGULUS-2%REGULUS-3%REGULUS-4%ALKALI%ALKALI-2%MARCASITE%SAL-AMMONIAC%ARSENIC%R
EALGAR%REALGAR-2%AURIPIGMENT%BISMUTH ORE%TARTAR%TARTAR-2%QUICK LIME%BORAX%BORAX-2%BORAX-3%ALUM%O
IL%SPIRIT%TINCTURE%GUM%WAX%POWDER%CALX%TUTTY%CAPUT MORTUUM%SCEPTER OF JOVE%CADUCEUS%TRIDENT%STAR
RED TRIDENT%LODESTONE%SOAP%URINE%HORSE DUNG%ASHES%POT ASHES%BRICK%POWDERED BRICK%AMALGAM%STRATU
M SUPER STRATUM(STRATUM-2%SUBLIMATION%PRECIPITATE%DISTILL%DISSOLVE%DISSOLVE-2%PURIFY%PUTREFACTIO
N%CRUCIBLE%CRUCIBLE-2%CRUCIBLE-3%CRUCIBLE-4%CRUCIBLE-5%ALEMBIC%BATH OF MARY(VAPOURS%RETORT%HOUR%
NIGHT%DAY-NIGHT%MONTH%mrDRAM&OUNCE@1F780!knntISOSCELEShkw#quISOSCELEShkw#msISOSCELEShkw#qrISOSCE
LEShkw#SLIGHTLYdle!luvxksle!vxksle!lbksle!wplbksle!EXTREMELYlbksle!kslexukndle!ROUND TARGET!knTI
NYld#SLIGHTLYdld!mbksld!luksld!vxksld!lbksld!wplbksld!EXTREMELYlbksld!ksldxuknwpdld&luld!ldTARGE
T!knTINYny#wpdny#ludny!ksnyxuknwpdny&luny!nyTARGET!knTINYvm#wpdvm#ludvm!ksvmxukndvm!THINtwqd!mbt
wqd!lutwqd!vxtwqd!wpvxtwqd#lbtwqd!EXTREMELYlbtwqd!THINxe!mbxe!luxe!vxxe!lbxe!wplbxe!EXTREMELYlbx
e!mbloujmx!luloujmx!vxloujmx!lbloujmx!wplbloujmx!EXTREMELYlbloujmx!mbplujmx!luplujmx!vxplujmx!lb
plujmx!wplbplujmx!EXTREMELYlbplujmx!mblhujmx!lulhujmx!vxlhujmx!lblhujmx!wplblhujmx!mbkmopknqw!lu
kmopknqw!kmopknqw!lukmopybqw!mbljopknqw!luljopknqw!ljopknqw!luljopybqw!rwmbljopybqw!mbloopknqw!l
bloopknqw!luplopknqw!lbplopknqw!plopybqw!lulhopknqw!lblhopknqw!wplblhopknqw!lblhopybqw!mbwuopknq
w!lbwuopknqw%ybqw!nbkw!sunbkw!nbld!sunbld@1F7E0!nsORANGEle#YELLOWle#GREENle#PURPLEle#BROWNle#RED
ld#BLUEld#ORANGEld#YELLOWld#GREENld#PURPLEld#BROWNld@1F7F0!lbqbg@1F800!kcfbdkwlc!lffbdkwlc!kafbd
kwlc!kofbdkwlc!kcfblukwlc!lffblukwlc!kafblukwlc!kofblukwlc!kcfbnskwlc!lffbnskwlc!kafbnskwlc!kofb
nskwlc@1F810!kcfbdnulc!lffbdnulc!kafbdnulc!kofbdnulc!kcfbnulc!lffbnulc!kafbnulc!kofbnulc!lbkcfbn
ulc#lffbnulc#kafbnulc#kofbnulc#kcfbnsnulc#lffbnsnulc#kafbnsnulc#kofbnsnulc!kckefbNARROWuz!lfkefb
NARROWuz!kakefbNARROWuz!kokefbNARROWuz!kckefbluuz!lfkefbluuz!kakefbluuz!kokefbluuz!kckefbvxuz!lf
kefbvxuz!kakefbvxuz!kokefbvxuz!kckefblbuz!lfkefblbuz!kakefblbuz!kokefblbuz!kckefbwplbuz!lfkefbwp
lbuz!kakefbwplbuz!kokefbwplbuz!kcFINGER-POSTf!lfFINGER-POSTf!kaFINGER-POSTf!koFINGER-POSTf!kcoqf
!lfoqf!kaoqf!kooqf!kcwaf!lfwaf!kawaf!kowaf!kclbwaf!lflbwaf!kalbwaf!kolbwaf!kclbf!lflbf!kalbf!kol
bf@1F850!kcojf!lfojf!kaojf!koojf!purmojf#qpojf!qlqpojf#rmojf!kkhojf!UPmvojf@1F860!WIDE-HEADEDkcm
boaf#lfmboaf#kamboaf#komboaf#purmmboaf$qpmboaf#qlqpmboaf$rmmboaf#kcoaf#lfoaf#kaoaf#kooaf#purmoaf
$qpoaf#qlqpoaf$rmoaf#kcluoaf#lfluoaf#kaluoaf#koluoaf#purmluoaf$qpluoaf#qlqpluoaf$rmluoaf#kclboaf
#lflboaf#kalboaf#kolboaf#purmlboaf$qplboaf#qlqplboaf$rmlboaf#kcwplboaf#lfwplboaf#kawplboaf#kowpl
boaf#purmwplboaf$qpwplboaf#qlqpwplboaf$rmwplboaf@1F890!kckwlc!lfkwlc!kakwlc!kokwlc!kcksfWITHINkw
lc!lfksfWITHINkwlc!kaksfWITHINkwlc!koksfWITHINkwlc!kcfbNOTCHEDrk!lffbNOTCHEDrk!kafbNOTCHEDrk!kof
bNOTCHEDrk!lbfuzWIDTHmi&mdTHIRDS&mimr(THIRD!kcBOTTOM-SHADEDksf!kaqnSHADEDksf!kcTOP SHADEDksf!kaT
OP SHADEDksf!kcLEFT-SHADEDksf!kaRIGHT-SHADEDksf!kcRIGHT-SHADEDksf!kaLEFT-SHADEDksf!kcBACK-TILTED
ubksf!kaBACK-TILTEDubksf!kcFRONT-TILTEDubksf!kaFRONT-TILTEDubksf!ksfuzWIDTHmi&mdTHIRDS@1F8B0!flr
lfTHENpurm$kaTHEN CURVINGqlrm@1F900!nbqdFORMEEbljnk&mdnk%!kkmrlebljnk&kmnk&mdnk&mm%!DOWNWARD FAC
INGll$NOTCHEDll$llbmm$NOTCHEDllbmm!PINCHEDqx!ksst!BROWNst!PINCHINGvg!ZIPPER-MOUTHni!MONEY-MOUTHn
i!nibTHERMOMETER!NERDni!THINKINGni!nibHEAD-BANDAGE!ROBOTni!HUGGINGni!gOF THE HORNS!CALL MEvg!rvB
ACK OFvg!LEFT-FACING FIST!RIGHT-FACING FIST!HANDSHAKE!vgbmakxkrqxve!I LOVE YOUvgg!nibCOWBOY HAT!
CLOWNni!NAUSEATEDni!ROLLING ON THE FLOOR LAUGHING!DROOLINGni!LYINGni!niPALM!SNEEZINGni!nibmiEYEB
ROWrv!GRINNINGnibqwEYES%minskxmidEYE!nibFINGER COVERINGqaLIPS!SERIOUSnibSYMBOLS COVERINGvn!tgnib
tgEYESkxvgCOVERINGvn!nibotvnVOMITING!SHOCKEDnibEXPLODING HEAD!PREGNANT WOMAN!BREAST-FEEDING!PALM
S UP TOGETHER!SELFIE!PRINCE!MAN IN TUXEDO!MOTHER CHRISTMAS!SHRUG!vpDOING CARTWHEEL!JUGGLING!FENC
ER!MODERN PENTATHLON!WRESTLERS!WATER POLO!HANDBALL!DIVING MASK!WILTED FLOWER!DRUMbDRUMSTICKS!CLI
NKING GLASSES!TUMBLER GLASS!SPOON!GOAL NET!RIFLE!FIRST PLACE MEDAL!SECOND PLACE MEDAL!THIRD PLAC
E MEDAL!BOXING GLOVE!MARTIAL ARTS UNIFORM!CURLING STONE!LACROSSE STICKkxBALL!SOFTBALL!FLYING DIS
C!CROISSANT!AVOCADO!CUCUMBER!BACON!POTATO!CARROT!BAGUETTE BREAD!GREEN SALAD!SHALLOW PAN OF FOOD!
STUFFED FLATBREAD!EGG!GLASS OF MILK!PEANUTS!KIWIFRUIT!PANCAKES!DUMPLING!FORTUNE COOKIE!TAKEOUT B
OX!CHOPSTICKS!BOWLbSPOON!CUPbSTRAW!COCONUT!BROCCOLI!PIE!PRETZEL!CUT OF MEAT!SANDWICH!CANNED FOOD
!LEAFY GREEN!MANGO!xdCAKE!BAGEL!tgnibtgEYESkxkmut!YAWNINGni!tgnibTEAR!nibPARTYulkxPARTY HAT$UNEV
EN EYESkxWAVYvn!OVERHEATEDni!FREEZINGni!NINJA!DISGUISEDni!niHOLDING BACK TEARS#bPLEADING EYES!SA
RI!LAB COAT!GOGGLES!HIKING BOOT!FLAT SHOE!CRAB!LIONni!SCORPION!TURKEY!UNICORNni!EAGLE!DUCK!BAT!S
HARK!OWL!FOXni!BUTTERFLY!DEER!GORILLA!LIZARD!RHINOCEROS!SHRIMP!SQUID!GIRAFFEni!ZEBRAni!HEDGEHOG!
SAUROPOD!T-REX!CRICKET!KANGAROO!LLAMA!PEACOCK!HIPPOPOTAMUS!PARROT!RACCOON!LOBSTER!MOSQUITO!MICRO
BE!BADGER!SWAN!MAMMOTH!DODO!SLOTH!OTTER!ORANGUTAN!SKUNK!FLAMINGO!OYSTER!BEAVER!BISON!SEAL!GUID
E DOG!PROBING CANE!EMOJI COMPONENT RED HAIR$tqHAIR$BALD$ksHAIR!BONE!LEG!FOOT!TOOTH!SUPERHERO!SUP
ERVILLAIN!SAFETY VEST!EARbHEARING AID!MOTORIZED WHEELCHAIR!MANUAL WHEELCHAIR!MECHANICAL ARM#LEG!
CHEESE WEDGE!CUPCAKE!SALT SHAKER!BEVERAGE BOX!GARLIC!ONION!FALAFEL!WAFFLE!BUTTER!MATE DRINK!IC
E CUBE!BUBBLE TEA!TROLL!STANDINGvp!KNEELINGvp!DEAFvp!nibMONOCLE!ADULT!CHILD!OLDER ADULT!BEARDEDv
p!vpbHEADSCARF#IN STEAMY ROOM#CLIMBING#IN LOTUS POSITION!MAGE!FAIRY!VAMPIRE!MERPERSON!ELF!GENIE!
ZOMBIE!BRAIN!ORANGEst!BILLED CAP!SCARF!GLOVES!COAT!SOCKS!RED GIFTxy!FIRECRACKER!JIGSAW PUZZLE PI
ECE!TEST TUBE!PETRIzd!DNAkbHELIX!COMPASS!ABACUS!FIRE EXTINGUISHER!TOOLBOX!BRICK!MAGNET!LUGGAGE!L
OTION BOTTLE!SPOOL OF THREAD!BALL OF YARN!SAFETY PIN!TEDDY BEAR!BROOM!BASKET!ROLL OF PAPER!pqO
F SOAP!SPONGE!RECEIPT!NAZAR AMULET!roscKING$yt$ROOK$zc$ri$PAWN!ksscrimfFORTY-FIVEnd!knscrimfFORT
Y-FIVEnd!roscrimfFORTY-FIVEnd!ksscKINGmfppnd$ytmfppnd$ROOKmfppnd$zcmfppnd$rimfppnd$PAWNmfppnd!kn
scKINGmfppnd$ytmfppnd$ROOKmfppnd$zcmfppnd$rimfppnd$PAWNmfppnd!roscKINGmfppnd$ytmfppnd$ROOKmfppnd
$zcmfppnd$rimfppnd$PAWNmfppnd!ksscrimfmikpTHIRTY-FIVEnd!knscrimfmikpTHIRTY-FIVEnd!roscrimfmikpTH
IRTY-FIVEnd!kssclwKING%yt%ROOK%zc%ri%PAWN!knsclwKING%yt%ROOK%zc%ri%PAWN!rosclwKING%yt%ROOK%zc%ri
%PAWN!ksscrimfmdkpTWENTY-FIVEnd!knscrimfmdkpTWENTY-FIVEnd!roscrimfmdkpTWENTY-FIVEnd!ksscKINGmfmd
kpovnd$ytmfmdkpovnd$ROOKmfmdkpovnd$zcmfmdkpovnd$rimfmdkpovnd$PAWNmfmdkpovnd!knscKINGmfmdkpovnd$y
tmfmdkpovnd$ROOKmfmdkpovnd$zcmfmdkpovnd$rimfmdkpovnd$PAWNmfmdkpovnd!roscKINGmfmdkpovnd$ytmfmdkpo
vnd$ROOKmfmdkpovnd$zcmfmdkpovnd$rimfmdkpovnd$PAWNmfmdkpovnd!ksscrimfkmkpxbnd!knscrimfkmkpxbnd!ro
scrimfkmkpxbnd!ksscEQUIHOPPER!knscEQUIHOPPER!roscEQUIHOPPER!ksscEQUIHOPPERmfppnd!knscEQUIHOPPERm
fppnd!roscEQUIHOPPERmfppnd!ksscKNIGHT-QUEEN$KNIGHT-ROOK$KNIGHT-BISHOP!knscKNIGHT-QUEEN$KNIGHT-RO
OK$KNIGHT-BISHOP@1FA60!XIANGQI RED GENERAL$MANDARIN$ELEPHANT$HORSE$CHARIOT$CANNON$SOLDIER#knGENE
RAL$MANDARIN$ELEPHANT$HORSE$CHARIOT$CANNON$SOLDIER@1FA70!BALLET SHOES!ONE-PIECE SWIMSUIT!BRIEFS!
SHORTS!THONG SANDAL@1FA78!DROP OF BLOOD!ADHESIVE BANDAGE!STETHOSCOPE!X-RAY!CRUTCH@1FA80!YO-YO!KI
TE!PARACHUTE!BOOMERANG!MAGIC WAND!PINATA!NESTING DOLLS@1FA90!RINGED PLANET!CHAIR!RAZOR!AXE!DIY
A LAMP!BANJO!MILITARY HELMET!ACCORDION!oxDRUM!COIN!CARPENTRY SAW!SCREWDRIVER!LADDER!ll!MIRROR!WI
NDOW!PLUNGER!SEWING NEEDLE!KNOT!BUCKET!MOUSE TRAP!TOOTHBRUSH!HEADSTONE!PLACARD!ROCK!MIRROR BALL!
IDENTIFICATION CARD!sbBATTERY!HAMSA@1FAB0!FLY!WORM!BEETLE!COCKROACH!POTTED PLANT!WOOD!FEATHER!LO
TUS!CORAL!EMPTY NEST!NESTbEGGS@1FAC0!ANATOMICALst!LUNGS!PEOPLE HUGGING!PREGNANT MAN#vp!vpbCROWN@
1FAD0!BLUEBERRIES!BELL PEPPER!OLIVE!FLATBREAD!TAMALE!FONDUE!TEAPOT!POURING LIQUID!BEANS!JAR@1FAE
0!MELTINGni!SALUTINGni!nibotEYESkxvgnmvn$PEEKING EYE$ncvn!poqjni!BITING LIP!BUBBLES@1FAF0!vgbmaF
INGERkxnjve!kavg!kcvg!PALMmvvg#UPvg!malrAT THE VIEWER!stHANDS@1FB00!omSEXTANT-1#SEXTANT-2#SEXTAN
T-12#SEXTANT-3#SEXTANT-13#SEXTANT-23#SEXTANT-123#SEXTANT-4#SEXTANT-14#SEXTANT-24#SEXTANT-124#SEX
TANT-34#SEXTANT-134#SEXTANT-234#SEXTANT-1234#SEXTANT-5#SEXTANT-15#SEXTANT-25#SEXTANT-125#SEXTANT
-35#SEXTANT-235#SEXTANT-1235#SEXTANT-45#SEXTANT-145#SEXTANT-245#SEXTANT-1245#SEXTANT-345#SEXTANT
-1345#SEXTANT-2345#SEXTANT-12345#SEXTANT-6#SEXTANT-16#SEXTANT-26#SEXTANT-126#SEXTANT-36#SEXTANT-
136#SEXTANT-236#SEXTANT-1236#SEXTANT-46#SEXTANT-146#SEXTANT-1246#SEXTANT-346#SEXTANT-1346#SEXTAN
T-2346#SEXTANT-12346#SEXTANT-56#SEXTANT-156#SEXTANT-256#SEXTANT-1256#SEXTANT-356#SEXTANT-1356#SE
XTANT-2356#SEXTANT-12356#SEXTANT-456#SEXTANT-1456#SEXTANT-2456#SEXTANT-12456#SEXTANT-3456#SEXTAN
T-13456#SEXTANT-23456!mjkkomncmjkrkkTOmjnp,h&nhkrkkTOmjnp,h(kkTOmjnp#homncnhkrkkTOnhnp,h&mjkrkkT
Onhnp,h(kkTOnhnp(krkkTOnhkrh(npTOmjkrh(kkTOmjkrh(npTOnhkrh(kkTOnhkrh(npTOnhh#kkomncnhnpTOnhkrh(k
kTOnhkrh(npTOmjkrh(kkTOmjkrh(npTOmjh(krkkTOmjkrh!nhhomncmjkrkkTOmjnp,h&nhkrkkTOmjnp,h(kkTOmjnp#k
komncnhkrkkTOnhnp,h&mjkrkkTOnhnp,h(kkTOnhnp(krkkTOnhkrh(npTOmjkrh(kkTOmjkrh(npTOnhkrh(kkTOnhkrh(
npTOnhh#homncnhnpTOnhkrh(kkTOnhkrh(npTOmjkrh(kkTOmjkrh(npTOmjh(krkkTOmjkrh#kxhkxmjoskmswom!kkkxm
jkxhoskmswom!nhkxkkkxmjoskmswom!kkkxnhkxhoskmswom#osmipaom!nhosmipaom!hosmipaom!mjosmipaom!kdmir
rBLOCK-2%BLOCK-3%BLOCK-4%BLOCK-5%BLOCK-6%BLOCK-7!kimirrBLOCK-2%BLOCK-3%BLOCK-4%BLOCK-5%BLOCK-6%B
LOCK-7!kkkxmjmirrom$nhmirrom!hkxnhmirrom$mjmirrom!nhkxmjmirrom!kimirrBLOCK-1358!nhmipaom#kmueom#
loueom#kmswom#lkueom!hmipaom#kmueom#loueom#kmswom#lkueom!kkmrluSHADE!hmrluSHADE!nhmrluSHADE!mjmr
luSHADE!ypluSHADE!nhmromkxmjmrypluSHADE$ypluSHADEkxmjmrom@1FB94!kkmrypluSHADEkxhmrom!CHECKER BOA
RD FILL!ypCHECKER BOARD FILL!lbkiFILL!nhkkTOmjhFILL#hTOmjkkFILL#kxmjosmrom!kkkxhosmrom!nhkkosluS
HADE#hosluSHADE!mjhosluSHADE#kkosluSHADE!BOX DRAWINGSmbncnhnpTOkrkk+h&krkkTOmjnp(hTOmjnp&nhnpTOk
rkkTOmjnp+hTOmjnp&krkkTOmjnpTOkrh*nhnpTOkrh&nhnpTOkrkkkxkrhTOmjnp+hkxkrkkTOmjnp,TOmjnpTOkrkk+kkT
OmjnpTOkrh&krkkTOnhnpTOkrhTOmjnp(hTOnhnpTOkrkkTOmjnp&ny%kibkdkj!ARROWHEAD-SHAPED POINTER!ypCHECK
kz!kkmrRUNNING MAN!hmrRUNNING MAN!ypkofbTIPkc!kcfkxnhkxmjmirrom!kafkxnhkxmjmirrom!kofkxhmirrom!l
ffkxhmirrom!kkmrFOLDER!hmrFOLDER!VOIDEDtwqd!hotoqmm!suncqd$krhTOmjnp$ny!kslbxebyuCORNERS!kkTHIRD
kshlrma!krTHIRDkshlrma!hTHIRDkshlrma!suoqorkz!STICK FIGURE$bARMSrv$LEANINGkk%h$bDRESS!ksquCHEVRO
N@1FBF0!SEGMENTEDmhok$mi$md$km$lj$lo$pl$lk$lh$mz@E0001!LANGUAGE TAG@E0020!TAGva#nokz#nwkz#ngg#DO
LLARg#PERCENTg#xi#ur#kklt#hlt#mx#mng#of#HYPHEN-MINUS#rtpr#qz#mhok$mi$md$km$lj$lo$pl$lk$lh$mz#si#
tn#lmg#qbg#kyg#orkz#COMMERCIAL AT#picaA&B&C&D&E&F&G&H&I&J&K&L&M&N&O&P&Q&R&S&T&U&V&W&X&Y&Z#kkldkt
#rwqz#hldkt#kupk#sbqj#nvpk#pidaA&B&C&D&E&F&G&H&I&J&K&L&M&N&O&P&Q&R&S&T&U&V&W&X&Y&Z#kktqkt#kdqj#h
tqkt#mg!CANCEL TAG@E0100!VARIATION SELECTOR-17#SELECTOR-18#SELECTOR-19#SELECTOR-20#SELECTOR-21#S
ELECTOR-22#SELECTOR-23#SELECTOR-24#SELECTOR-25#SELECTOR-26#SELECTOR-27#SELECTOR-28#SELECTOR-29#S
ELECTOR-30#SELECTOR-31#SELECTOR-32#SELECTOR-33#SELECTOR-34#SELECTOR-35#SELECTOR-36#SELECTOR-37#S
ELECTOR-38#SELECTOR-39#SELECTOR-40#SELECTOR-41#SELECTOR-42#SELECTOR-43#SELECTOR-44#SELECTOR-45#S
ELECTOR-46#SELECTOR-47#SELECTOR-48#SELECTOR-49#SELECTOR-50#SELECTOR-51#SELECTOR-52#SELECTOR-53#S
ELECTOR-54#SELECTOR-55#SELECTOR-56#SELECTOR-57#SELECTOR-58#SELECTOR-59#SELECTOR-60#SELECTOR-61#S
ELECTOR-62#SELECTOR-63#SELECTOR-64#SELECTOR-65#SELECTOR-66#SELECTOR-67#SELECTOR-68#SELECTOR-69#S
ELECTOR-70#SELECTOR-71#SELECTOR-72#SELECTOR-73#SELECTOR-74#SELECTOR-75#SELECTOR-76#SELECTOR-77#S
ELECTOR-78#SELECTOR-79#SELECTOR-80#SELECTOR-81#SELECTOR-82#SELECTOR-83#SELECTOR-84#SELECTOR-85#S
ELECTOR-86#SELECTOR-87#SELECTOR-88#SELECTOR-89#SELECTOR-90#SELECTOR-91#SELECTOR-92#SELECTOR-93#S
ELECTOR-94#SELECTOR-95#SELECTOR-96#SELECTOR-97#SELECTOR-98#SELECTOR-99#SELECTOR-100#SELECTOR-101
#SELECTOR-102#SELECTOR-103#SELECTOR-104#SELECTOR-105#SELECTOR-106#SELECTOR-107#SELECTOR-108#SELE
CTOR-109#SELECTOR-110#SELECTOR-111#SELECTOR-112#SELECTOR-113#SELECTOR-114#SELECTOR-115#SELECTOR-
116#SELECTOR-117#SELECTOR-118#SELECTOR-119#SELECTOR-120#SELECTOR-121#SELECTOR-122#SELECTOR-123#S
ELECTOR-124#SELECTOR-125#SELECTOR-126#SELECTOR-127#SELECTOR-128#SELECTOR-129#SELECTOR-130#SELECT
OR-131#SELECTOR-132#SELECTOR-133#SELECTOR-134#SELECTOR-135#SELECTOR-136#SELECTOR-137#SELECTOR-13
8#SELECTOR-139#SELECTOR-140#SELECTOR-141#SELECTOR-142#SELECTOR-143#SELECTOR-144#SELECTOR-145#SEL
ECTOR-146#SELECTOR-147#SELECTOR-148#SELECTOR-149#SELECTOR-150#SELECTOR-151#SELECTOR-152#SELECTOR
-153#SELECTOR-154#SELECTOR-155#SELECTOR-156#SELECTOR-157#SELECTOR-158#SELECTOR-159#SELECTOR-160#
SELECTOR-161#SELECTOR-162#SELECTOR-163#SELECTOR-164#SELECTOR-165#SELECTOR-166#SELECTOR-167#SELEC
TOR-168#SELECTOR-169#SELECTOR-170#SELECTOR-171#SELECTOR-172#SELECTOR-173#SELECTOR-174#SELECTOR-1
75#SELECTOR-176#SELECTOR-177#SELECTOR-178#SELECTOR-179#SELECTOR-180#SELECTOR-181#SELECTOR-182#SE
LECTOR-183#SELECTOR-184#SELECTOR-185#SELECTOR-186#SELECTOR-187#SELECTOR-188#SELECTOR-189#SELECTO
R-190#SELECTOR-191#SELECTOR-192#SELECTOR-193#SELECTOR-194#SELECTOR-195#SELECTOR-196#SELECTOR-197
#SELECTOR-198#SELECTOR-199#SELECTOR-200#SELECTOR-201#SELECTOR-202#SELECTOR-203#SELECTOR-204#SELE
CTOR-205#SELECTOR-206#SELECTOR-207#SELECTOR-208#SELECTOR-209#SELECTOR-210#SELECTOR-211#SELECTOR-
212#SELECTOR-213#SELECTOR-214#SELECTOR-215#SELECTOR-216#SELECTOR-217#SELECTOR-218#SELECTOR-219#S
ELECTOR-220#SELECTOR-221#SELECTOR-222#SELECTOR-223#SELECTOR-224#SELECTOR-225#SELECTOR-226#SELECT
OR-227#SELECTOR-228#SELECTOR-229#SELECTOR-230#SELECTOR-231#SELECTOR-232#SELECTOR-233#SELECTOR-23
4#SELECTOR-235#SELECTOR-236#SELECTOR-237#SELECTOR-238#SELECTOR-239#SELECTOR-240#SELECTOR-241#SEL
ECTOR-242#SELECTOR-243#SELECTOR-244#SELECTOR-245#SELECTOR-246#SELECTOR-247#SELECTOR-248#SELECTOR
-249#SELECTOR-250#SELECTOR-251#SELECTOR-252#SELECTOR-253#SELECTOR-254#SELECTOR-255#SELECTOR-256"

end CharacterName

end Stencil
