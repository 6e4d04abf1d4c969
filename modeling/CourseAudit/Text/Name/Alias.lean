/-!
Further names of characters: those of controls, abbreviations and corrected names.
-/
namespace CourseAudit.Text.Name

/-- The further names of code points, separated by bars. -/
def aliases : List (Nat × String) :=
  [(0x0, "NULL|NUL"), (0x1, "START OF HEADING|SOH"), (0x2, "START OF TEXT|STX"),
   (0x3, "END OF TEXT|ETX"), (0x4, "END OF TRANSMISSION|EOT"), (0x5, "ENQUIRY|ENQ"),
   (0x6, "ACKNOWLEDGE|ACK"), (0x7, "ALERT|BEL"), (0x8, "BACKSPACE|BS"),
   (0x9, "CHARACTER TABULATION|HORIZONTAL TABULATION|HT|TAB"),
   (0xa, "LINE FEED|NEW LINE|END OF LINE|LF|NL|EOL"),
   (0xb, "LINE TABULATION|VERTICAL TABULATION|VT"), (0xc, "FORM FEED|FF"),
   (0xd, "CARRIAGE RETURN|CR"), (0xe, "SHIFT OUT|LOCKING-SHIFT ONE|SO"),
   (0xf, "SHIFT IN|LOCKING-SHIFT ZERO|SI"), (0x10, "DATA LINK ESCAPE|DLE"),
   (0x11, "DEVICE CONTROL ONE|DC1"), (0x12, "DEVICE CONTROL TWO|DC2"),
   (0x13, "DEVICE CONTROL THREE|DC3"), (0x14, "DEVICE CONTROL FOUR|DC4"),
   (0x15, "NEGATIVE ACKNOWLEDGE|NAK"), (0x16, "SYNCHRONOUS IDLE|SYN"),
   (0x17, "END OF TRANSMISSION BLOCK|ETB"), (0x18, "CANCEL|CAN"), (0x19, "END OF MEDIUM|EOM"),
   (0x1a, "SUBSTITUTE|SUB"), (0x1b, "ESCAPE|ESC"),
   (0x1c, "INFORMATION SEPARATOR FOUR|FILE SEPARATOR|FS"),
   (0x1d, "INFORMATION SEPARATOR THREE|GROUP SEPARATOR|GS"),
   (0x1e, "INFORMATION SEPARATOR TWO|RECORD SEPARATOR|RS"),
   (0x1f, "INFORMATION SEPARATOR ONE|UNIT SEPARATOR|US"), (0x20, "SP"), (0x7f, "DELETE|DEL"),
   (0x80, "PADDING CHARACTER|PAD"), (0x81, "HIGH OCTET PRESET|HOP"),
   (0x82, "BREAK PERMITTED HERE|BPH"), (0x83, "NO BREAK HERE|NBH"), (0x84, "INDEX|IND"),
   (0x85, "NEXT LINE|NEL"), (0x86, "START OF SELECTED AREA|SSA"),
   (0x87, "END OF SELECTED AREA|ESA"),
   (0x88, "CHARACTER TABULATION SET|HORIZONTAL TABULATION SET|HTS"),
   (0x89, "CHARACTER TABULATION WITH JUSTIFICATION|HORIZONTAL TABULATION WITH JUSTIFICATION|HTJ"),
   (0x8a, "LINE TABULATION SET|VERTICAL TABULATION SET|VTS"),
   (0x8b, "PARTIAL LINE FORWARD|PARTIAL LINE DOWN|PLD"),
   (0x8c, "PARTIAL LINE BACKWARD|PARTIAL LINE UP|PLU"),
   (0x8d, "REVERSE LINE FEED|REVERSE INDEX|RI"), (0x8e, "SINGLE SHIFT TWO|SINGLE-SHIFT-2|SS2"),
   (0x8f, "SINGLE SHIFT THREE|SINGLE-SHIFT-3|SS3"), (0x90, "DEVICE CONTROL STRING|DCS"),
   (0x91, "PRIVATE USE ONE|PRIVATE USE-1|PU1"), (0x92, "PRIVATE USE TWO|PRIVATE USE-2|PU2"),
   (0x93, "SET TRANSMIT STATE|STS"), (0x94, "CANCEL CHARACTER|CCH"), (0x95, "MESSAGE WAITING|MW"),
   (0x96, "START OF GUARDED AREA|START OF PROTECTED AREA|SPA"),
   (0x97, "END OF GUARDED AREA|END OF PROTECTED AREA|EPA"), (0x98, "START OF STRING|SOS"),
   (0x99, "SINGLE GRAPHIC CHARACTER INTRODUCER|SGC"), (0x9a, "SINGLE CHARACTER INTRODUCER|SCI"),
   (0x9b, "CONTROL SEQUENCE INTRODUCER|CSI"), (0x9c, "STRING TERMINATOR|ST"),
   (0x9d, "OPERATING SYSTEM COMMAND|OSC"), (0x9e, "PRIVACY MESSAGE|PM"),
   (0x9f, "APPLICATION PROGRAM COMMAND|APC"), (0xa0, "NBSP"), (0xad, "SHY"),
   (0x1a2, "LATIN CAPITAL LETTER GHA"), (0x1a3, "LATIN SMALL LETTER GHA"), (0x34f, "CGJ"),
   (0x61c, "ALM"), (0x709, "SYRIAC SUBLINEAR COLON SKEWED LEFT"), (0xcde, "KANNADA LETTER LLLA"),
   (0xe9d, "LAO LETTER FO FON"), (0xe9f, "LAO LETTER FO FAY"), (0xea3, "LAO LETTER RO"),
   (0xea5, "LAO LETTER LO"), (0xfd0, "TIBETAN MARK BKA- SHOG GI MGO RGYAN"),
   (0x11ec, "HANGUL JONGSEONG YESIEUNG-KIYEOK"), (0x11ed, "HANGUL JONGSEONG YESIEUNG-SSANGKIYEOK"),
   (0x11ee, "HANGUL JONGSEONG SSANGYESIEUNG"), (0x11ef, "HANGUL JONGSEONG YESIEUNG-KHIEUKH"),
   (0x180b, "FVS1"), (0x180c, "FVS2"), (0x180d, "FVS3"), (0x180e, "MVS"), (0x180f, "FVS4"),
   (0x200b, "ZWSP"), (0x200c, "ZWNJ"), (0x200d, "ZWJ"), (0x200e, "LRM"), (0x200f, "RLM"),
   (0x202a, "LRE"), (0x202b, "RLE"), (0x202c, "PDF"), (0x202d, "LRO"), (0x202e, "RLO"),
   (0x202f, "NNBSP"), (0x205f, "MMSP"), (0x2060, "WJ"), (0x2066, "LRI"), (0x2067, "RLI"),
   (0x2068, "FSI"), (0x2069, "PDI"), (0x2118, "WEIERSTRASS ELLIPTIC FUNCTION"),
   (0x2448, "MICR ON US SYMBOL"), (0x2449, "MICR DASH SYMBOL"),
   (0x2b7a, "LEFTWARDS TRIANGLE-HEADED ARROW WITH DOUBLE VERTICAL STROKE"),
   (0x2b7c, "RIGHTWARDS TRIANGLE-HEADED ARROW WITH DOUBLE VERTICAL STROKE"),
   (0xa015, "YI SYLLABLE ITERATION MARK"), (0xaa6e, "MYANMAR LETTER KHAMTI LLA"), (0xfe00, "VS1"),
   (0xfe01, "VS2"), (0xfe02, "VS3"), (0xfe03, "VS4"), (0xfe04, "VS5"), (0xfe05, "VS6"),
   (0xfe06, "VS7"), (0xfe07, "VS8"), (0xfe08, "VS9"), (0xfe09, "VS10"), (0xfe0a, "VS11"),
   (0xfe0b, "VS12"), (0xfe0c, "VS13"), (0xfe0d, "VS14"), (0xfe0e, "VS15"), (0xfe0f, "VS16"),
   (0xfe18, "PRESENTATION FORM FOR VERTICAL RIGHT WHITE LENTICULAR BRACKET"),
   (0xfeff, "BYTE ORDER MARK|BOM|ZWNBSP"), (0x122d4, "CUNEIFORM SIGN NU11 TENU"),
   (0x122d5, "CUNEIFORM SIGN NU11 OVER NU11 BUR OVER BUR"),
   (0x16e56, "MEDEFAIDRIN CAPITAL LETTER H"), (0x16e57, "MEDEFAIDRIN CAPITAL LETTER NG"),
   (0x16e76, "MEDEFAIDRIN SMALL LETTER H"), (0x16e77, "MEDEFAIDRIN SMALL LETTER NG"),
   (0x1b001, "HENTAIGANA LETTER E-1"),
   (0x1d0c5, "BYZANTINE MUSICAL SYMBOL FTHORA SKLIRON CHROMA VASIS"), (0xe0100, "VS17"),
   (0xe0101, "VS18"), (0xe0102, "VS19"), (0xe0103, "VS20"), (0xe0104, "VS21"), (0xe0105, "VS22"),
   (0xe0106, "VS23"), (0xe0107, "VS24"), (0xe0108, "VS25"), (0xe0109, "VS26"), (0xe010a, "VS27"),
   (0xe010b, "VS28"), (0xe010c, "VS29"), (0xe010d, "VS30"), (0xe010e, "VS31"), (0xe010f, "VS32"),
   (0xe0110, "VS33"), (0xe0111, "VS34"), (0xe0112, "VS35"), (0xe0113, "VS36"), (0xe0114, "VS37"),
   (0xe0115, "VS38"), (0xe0116, "VS39"), (0xe0117, "VS40"), (0xe0118, "VS41"), (0xe0119, "VS42"),
   (0xe011a, "VS43"), (0xe011b, "VS44"), (0xe011c, "VS45"), (0xe011d, "VS46"), (0xe011e, "VS47"),
   (0xe011f, "VS48"), (0xe0120, "VS49"), (0xe0121, "VS50"), (0xe0122, "VS51"), (0xe0123, "VS52"),
   (0xe0124, "VS53"), (0xe0125, "VS54"), (0xe0126, "VS55"), (0xe0127, "VS56"), (0xe0128, "VS57"),
   (0xe0129, "VS58"), (0xe012a, "VS59"), (0xe012b, "VS60"), (0xe012c, "VS61"), (0xe012d, "VS62"),
   (0xe012e, "VS63"), (0xe012f, "VS64"), (0xe0130, "VS65"), (0xe0131, "VS66"), (0xe0132, "VS67"),
   (0xe0133, "VS68"), (0xe0134, "VS69"), (0xe0135, "VS70"), (0xe0136, "VS71"), (0xe0137, "VS72"),
   (0xe0138, "VS73"), (0xe0139, "VS74"), (0xe013a, "VS75"), (0xe013b, "VS76"), (0xe013c, "VS77"),
   (0xe013d, "VS78"), (0xe013e, "VS79"), (0xe013f, "VS80"), (0xe0140, "VS81"), (0xe0141, "VS82"),
   (0xe0142, "VS83"), (0xe0143, "VS84"), (0xe0144, "VS85"), (0xe0145, "VS86"), (0xe0146, "VS87"),
   (0xe0147, "VS88"), (0xe0148, "VS89"), (0xe0149, "VS90"), (0xe014a, "VS91"), (0xe014b, "VS92"),
   (0xe014c, "VS93"), (0xe014d, "VS94"), (0xe014e, "VS95"), (0xe014f, "VS96"), (0xe0150, "VS97"),
   (0xe0151, "VS98"), (0xe0152, "VS99"), (0xe0153, "VS100"), (0xe0154, "VS101"), (0xe0155, "VS102"),
   (0xe0156, "VS103"), (0xe0157, "VS104"), (0xe0158, "VS105"), (0xe0159, "VS106"),
   (0xe015a, "VS107"), (0xe015b, "VS108"), (0xe015c, "VS109"), (0xe015d, "VS110"),
   (0xe015e, "VS111"), (0xe015f, "VS112"), (0xe0160, "VS113"), (0xe0161, "VS114"),
   (0xe0162, "VS115"), (0xe0163, "VS116"), (0xe0164, "VS117"), (0xe0165, "VS118"),
   (0xe0166, "VS119"), (0xe0167, "VS120"), (0xe0168, "VS121"), (0xe0169, "VS122"),
   (0xe016a, "VS123"), (0xe016b, "VS124"), (0xe016c, "VS125"), (0xe016d, "VS126"),
   (0xe016e, "VS127"), (0xe016f, "VS128"), (0xe0170, "VS129"), (0xe0171, "VS130"),
   (0xe0172, "VS131"), (0xe0173, "VS132"), (0xe0174, "VS133"), (0xe0175, "VS134"),
   (0xe0176, "VS135"), (0xe0177, "VS136"), (0xe0178, "VS137"), (0xe0179, "VS138"),
   (0xe017a, "VS139"), (0xe017b, "VS140"), (0xe017c, "VS141"), (0xe017d, "VS142"),
   (0xe017e, "VS143"), (0xe017f, "VS144"), (0xe0180, "VS145"), (0xe0181, "VS146"),
   (0xe0182, "VS147"), (0xe0183, "VS148"), (0xe0184, "VS149"), (0xe0185, "VS150"),
   (0xe0186, "VS151"), (0xe0187, "VS152"), (0xe0188, "VS153"), (0xe0189, "VS154"),
   (0xe018a, "VS155"), (0xe018b, "VS156"), (0xe018c, "VS157"), (0xe018d, "VS158"),
   (0xe018e, "VS159"), (0xe018f, "VS160"), (0xe0190, "VS161"), (0xe0191, "VS162"),
   (0xe0192, "VS163"), (0xe0193, "VS164"), (0xe0194, "VS165"), (0xe0195, "VS166"),
   (0xe0196, "VS167"), (0xe0197, "VS168"), (0xe0198, "VS169"), (0xe0199, "VS170"),
   (0xe019a, "VS171"), (0xe019b, "VS172"), (0xe019c, "VS173"), (0xe019d, "VS174"),
   (0xe019e, "VS175"), (0xe019f, "VS176"), (0xe01a0, "VS177"), (0xe01a1, "VS178"),
   (0xe01a2, "VS179"), (0xe01a3, "VS180"), (0xe01a4, "VS181"), (0xe01a5, "VS182"),
   (0xe01a6, "VS183"), (0xe01a7, "VS184"), (0xe01a8, "VS185"), (0xe01a9, "VS186"),
   (0xe01aa, "VS187"), (0xe01ab, "VS188"), (0xe01ac, "VS189"), (0xe01ad, "VS190"),
   (0xe01ae, "VS191"), (0xe01af, "VS192"), (0xe01b0, "VS193"), (0xe01b1, "VS194"),
   (0xe01b2, "VS195"), (0xe01b3, "VS196"), (0xe01b4, "VS197"), (0xe01b5, "VS198"),
   (0xe01b6, "VS199"), (0xe01b7, "VS200"), (0xe01b8, "VS201"), (0xe01b9, "VS202"),
   (0xe01ba, "VS203"), (0xe01bb, "VS204"), (0xe01bc, "VS205"), (0xe01bd, "VS206"),
   (0xe01be, "VS207"), (0xe01bf, "VS208"), (0xe01c0, "VS209"), (0xe01c1, "VS210"),
   (0xe01c2, "VS211"), (0xe01c3, "VS212"), (0xe01c4, "VS213"), (0xe01c5, "VS214"),
   (0xe01c6, "VS215"), (0xe01c7, "VS216"), (0xe01c8, "VS217"), (0xe01c9, "VS218"),
   (0xe01ca, "VS219"), (0xe01cb, "VS220"), (0xe01cc, "VS221"), (0xe01cd, "VS222"),
   (0xe01ce, "VS223"), (0xe01cf, "VS224"), (0xe01d0, "VS225"), (0xe01d1, "VS226"),
   (0xe01d2, "VS227"), (0xe01d3, "VS228"), (0xe01d4, "VS229"), (0xe01d5, "VS230"),
   (0xe01d6, "VS231"), (0xe01d7, "VS232"), (0xe01d8, "VS233"), (0xe01d9, "VS234"),
   (0xe01da, "VS235"), (0xe01db, "VS236"), (0xe01dc, "VS237"), (0xe01dd, "VS238"),
   (0xe01de, "VS239"), (0xe01df, "VS240"), (0xe01e0, "VS241"), (0xe01e1, "VS242"),
   (0xe01e2, "VS243"), (0xe01e3, "VS244"), (0xe01e4, "VS245"), (0xe01e5, "VS246"),
   (0xe01e6, "VS247"), (0xe01e7, "VS248"), (0xe01e8, "VS249"), (0xe01e9, "VS250"),
   (0xe01ea, "VS251"), (0xe01eb, "VS252"), (0xe01ec, "VS253"), (0xe01ed, "VS254"),
   (0xe01ee, "VS255"), (0xe01ef, "VS256")]

end CourseAudit.Text.Name
