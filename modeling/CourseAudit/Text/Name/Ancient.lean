/-!
Names of characters: ancient alphabets and syllabaries.
-/
namespace CourseAudit.Text.Name

/-- Runs of names by the code point of the first. -/
def ancient : List (Nat × List String) :=
  [(0x10000, [
     "0LINEAR B SYLLABLE B008 A|3B038 E|3B028 I|3B061 O|3B010 U|3B001 DA|3B045 DE|3B007 DI",
     "3B014 DO|3B051 DU|3B057 JA|3B046 JE"]),
   (0x1000d, [
     "0LINEAR B SYLLABLE B036 JO|3B065 JU|3B077 KA|3B044 KE|3B067 KI|3B070 KO|3B081 KU|3B080 MA",
     "3B013 ME|3B073 MI|3B015 MO|3B023 MU|3B006 NA|3B024 NE|3B030 NI|3B052 NO|3B055 NU|3B003 PA",
     "3B072 PE|3B039 PI|3B011 PO|3B050 PU|3B016 QA|3B078 QE|3B021 QI|3B032 QO"]),
   (0x10028, [
     "0LINEAR B SYLLABLE B060 RA|3B027 RE|3B053 RI|3B002 RO|3B026 RU|3B031 SA|3B009 SE|3B041 SI",
     "3B012 SO|3B058 SU|3B059 TA|3B004 TE|3B037 TI|3B005 TO|3B069 TU|3B054 WA|3B075 WE|3B040 WI",
     "3B042 WO"]),
   (0x1003c, ["0LINEAR B SYLLABLE B017 ZA|3B074 ZE"]),
   (0x1003f, [
     "0LINEAR B SYLLABLE B020 ZO|3B025 A2|3B043 A3|3B085 AU|3B071 DWE|3B090 DWO|3B048 NWA",
     "3B029 PU2|3B062 PTE|3B076 RA2|3B033 RA3|3B068 RO2|3B066 TA2|3B087 TWE|3B091 TWO"]),
   (0x10050, [
     "0LINEAR B SYMBOL B018|3B019|3B022|3B034|3B047|3B049|3B056|3B063|3B064|3B079|3B082|3B083",
     "3B086|3B089"]),
   (0x10080, [
     "0LINEAR B IDEOGRAM B100 MAN|3B102 WOMAN|3B104 DEER|3B105 EQUID|3B105F MARE|3B105M STALLION",
     "3B106F EWE|3B106M RAM|3B107F SHE-GOAT|3B107M HE-GOAT|3B108F SOW|3B108M BOAR|3B109F COW",
     "3B109M BULL|3B120 WHEAT|3B121 BARLEY|3B122 OLIVE|3B123 SPICE|3B125 CYPERUS",
     "2MONOGRAM B127 KAPO|3B128 KANAKO|2IDEOGRAM B130 OIL|3B131 WINE|3B132|2MONOGRAM B133 AREPA",
     "3B135 MERI|2IDEOGRAM B140 BRONZE|3B141 GOLD|3B142|3B145 WOOL|3B146|3B150|3B151 HORN|3B152",
     "3B153|3B154|2MONOGRAM B156 TURO2|2IDEOGRAM B157|3B158|3B159 CLOTH|3B160|3B161",
     "3B162 GARMENT|3B163 ARMOUR|3B164|3B165|3B166|3B167|3B168|3B169|3B170|3B171|3B172",
     "3B173 MONTH|3B174|3B176 TREE|3B177|3B178|3B179|3B180|3B181|3B182|3B183|3B184|3B185|3B189",
     "3B190|3B191 HELMET|3B220 FOOTSTOOL|3B225 BATHTUB|3B230 SPEAR|3B231 ARROW|3B232|3B233 SWORD",
     "3B234|3B236|3B240 WHEELED CHARIOT|3B241 CHARIOT|3B242 CHARIOT FRAME|3B243 WHEEL|3B245",
     "3B246|2MONOGRAM B247 DIPTE|2IDEOGRAM B248|3B249|3B251|3B252|3B253|3B254 DART|3B255|3B256",
     "3B257|3B258|3B259|3VESSEL B155|4B200|4B201|4B202|4B203|4B204|4B205|4B206|4B207|4B208|4B209",
     "4B210|4B211|4B212|4B213|4B214|4B215|4B216|4B217|4B218|4B219|4B221|4B222|4B226|4B227|4B228",
     "4B229|4B250|4B305"]),
   (0x10100, ["0AEGEAN WORD SEPARATOR LINE|3DOT|1CHECK MARK"]),
   (0x10107, [
     "0AEGEAN NUMBER ONE|2TWO|2THREE|2FOUR|2FIVE|2SIX|2SEVEN|2EIGHT|2NINE|2TEN|2TWENTY|2THIRTY",
     "2FORTY|2FIFTY|2SIXTY|2SEVENTY|2EIGHTY|2NINETY|2ONE HUNDRED|2TWO HUNDRED|2THREE HUNDRED",
     "2FOUR HUNDRED|2FIVE HUNDRED|2SIX HUNDRED|2SEVEN HUNDRED|2EIGHT HUNDRED|2NINE HUNDRED",
     "2ONE THOUSAND|2TWO THOUSAND|2THREE THOUSAND|2FOUR THOUSAND|2FIVE THOUSAND|2SIX THOUSAND",
     "2SEVEN THOUSAND|2EIGHT THOUSAND|2NINE THOUSAND|2TEN THOUSAND|2TWENTY THOUSAND",
     "2THIRTY THOUSAND|2FORTY THOUSAND|2FIFTY THOUSAND|2SIXTY THOUSAND|2SEVENTY THOUSAND",
     "2EIGHTY THOUSAND|2NINETY THOUSAND"]),
   (0x10137, [
     "0AEGEAN WEIGHT BASE UNIT|2FIRST SUBUNIT|2SECOND SUBUNIT|2THIRD SUBUNIT|2FOURTH SUBUNIT",
     "1DRY MEASURE FIRST SUBUNIT|1LIQUID MEASURE FIRST SUBUNIT|1MEASURE SECOND SUBUNIT",
     "2THIRD SUBUNIT|0GREEK ACROPHONIC ATTIC ONE QUARTER|4HALF|4DRACHMA|3FIVE|3FIFTY",
     "3FIVE HUNDRED|4THOUSAND|3FIFTY THOUSAND|3FIVE TALENTS|3TEN TALENTS|3FIFTY TALENTS",
     "3ONE HUNDRED TALENTS|3FIVE HUNDRED TALENTS|3ONE THOUSAND TALENTS|3FIVE THOUSAND TALENTS",
     "4STATERS|3TEN STATERS|3FIFTY STATERS|3ONE HUNDRED STATERS|3FIVE HUNDRED STATERS",
     "3ONE THOUSAND STATERS|3TEN THOUSAND STATERS|3FIFTY THOUSAND STATERS|3TEN MNAS",
     "2HERAEUM ONE PLETHRON|2THESPIAN ONE|2HERMIONIAN ONE|2EPIDAUREAN TWO|2THESPIAN TWO",
     "2CYRENAIC TWO DRACHMAS|2EPIDAUREAN TWO DRACHMAS|2TROEZENIAN FIVE|3TEN|4ALTERNATE FORM",
     "2HERMIONIAN TEN|2MESSENIAN TEN|2THESPIAN TEN|3THIRTY|2TROEZENIAN FIFTY|4ALTERNATE FORM",
     "2HERMIONIAN FIFTY|2THESPIAN FIFTY|3ONE HUNDRED|3THREE HUNDRED|2EPIDAUREAN FIVE HUNDRED",
     "2TROEZENIAN FIVE HUNDRED|2THESPIAN FIVE HUNDRED|2CARYSTIAN FIVE HUNDRED",
     "2NAXIAN FIVE HUNDRED|2THESPIAN ONE THOUSAND|3FIVE THOUSAND|2DELPHIC FIVE MNAS",
     "2STRATIAN FIFTY MNAS|1ONE HALF SIGN|4ALTERNATE FORM|1TWO THIRDS SIGN|1THREE QUARTERS SIGN",
     "1YEAR SIGN|1TALENT SIGN|1DRACHMA SIGN|1OBOL SIGN|1TWO OBOLS SIGN|1THREE OBOLS SIGN",
     "1FOUR OBOLS SIGN|1FIVE OBOLS SIGN|1METRETES SIGN|1KYATHOS BASE SIGN|1LITRA SIGN",
     "1OUNKIA SIGN|1XESTES SIGN|1ARTABE SIGN|1AROURA SIGN|1GRAMMA SIGN|1TRYBLION BASE SIGN",
     "1ZERO SIGN|1ONE QUARTER SIGN|1SINUSOID SIGN|1INDICTION SIGN|0NOMISMA SIGN"]),
   (0x10190, [
     "0ROMAN SEXTANS SIGN|1UNCIA SIGN|1SEMUNCIA SIGN|1SEXTULA SIGN|1DIMIDIA SEXTULA SIGN",
     "1SILIQUA SIGN|1DENARIUS SIGN|1QUINARIUS SIGN|1SESTERTIUS SIGN|1DUPONDIUS SIGN|1AS SIGN",
     "1CENTURIAL SIGN|0ASCIA SYMBOL"]),
   (0x101a0, ["0GREEK SYMBOL TAU RHO"]),
   (0x101d0, [
     "0PHAISTOS DISC SIGN PEDESTRIAN|3PLUMED HEAD|3TATTOOED HEAD|3CAPTIVE|3CHILD|3WOMAN|3HELMET",
     "3GAUNTLET|3TIARA|3ARROW|3BOW|3SHIELD|3CLUB|3MANACLES|3MATTOCK|3SAW|3LID|3BOOMERANG",
     "3CARPENTRY PLANE|3DOLIUM|3COMB|3SLING|3COLUMN|3BEEHIVE|3SHIP|3HORN|3HIDE|3BULLS LEG|3CAT",
     "3RAM|3EAGLE|3DOVE|3TUNNY|3BEE|3PLANE TREE|3VINE|3PAPYRUS|3ROSETTE|3LILY|3OX BACK|3FLUTE",
     "3GRATER|3STRAINER|3SMALL AXE|3WAVY BAND|3COMBINING OBLIQUE STROKE"]),
   (0x10280, [
     "0LYCIAN LETTER A|2E|2B|2BH|2G|2D|2I|2W|2Z|2TH|2J|2K|2Q|2L|2M|2N|2MM|2NN|2U|2P|2KK|2R|2S|2T",
     "2TT|2AN|2EN|2H|2X"]),
   (0x102a0, [
     "0CARIAN LETTER A|2P2|2D|2L|2UUU|2R|2LD|2A2|2Q|2B|2M|2O|2D2|2T|2SH|2SH2|2S|2C-18|2U|2NN|2X",
     "2N|2TT2|2P|2SS|2I|2E|2UUUU|2K|2K2|2ND|2UU|2G|2G2|2ST|2ST2|2NG|2II|2C-39|2TT|2UUU2|2RR|2MB",
     "2MB2|2MB3|2MB4|2LD2|2E2|2UUU3"]),
   (0x102e0, [
     "0COPTIC EPACT THOUSANDS MARK|2DIGIT ONE|3TWO|3THREE|3FOUR|3FIVE|3SIX|3SEVEN|3EIGHT|3NINE",
     "2NUMBER TEN|3TWENTY|3THIRTY|3FORTY|3FIFTY|3SIXTY|3SEVENTY|3EIGHTY|3NINETY|3ONE HUNDRED",
     "3TWO HUNDRED|3THREE HUNDRED|3FOUR HUNDRED|3FIVE HUNDRED|3SIX HUNDRED|3SEVEN HUNDRED",
     "3EIGHT HUNDRED|3NINE HUNDRED"]),
   (0x10300, [
     "0OLD ITALIC LETTER A|3BE|3KE|3DE|3E|3VE|3ZE|3HE|3THE|3I|3KA|3EL|3EM|3EN|3ESH|3O|3PE|3SHE",
     "3KU|3ER|3ES|3TE|3U|3EKS|3PHE|3KHE|3EF|3ERS|3CHE|3II|3UU|3ESS|2NUMERAL ONE|3FIVE|3TEN",
     "3FIFTY"]),
   (0x1032d, [
     "0OLD ITALIC LETTER YE|3NORTHERN TSE|3SOUTHERN TSE|0GOTHIC LETTER AHSA|2BAIRKAN|2GIBA|2DAGS",
     "2AIHVUS|2QAIRTHRA|2IUJA|2HAGL|2THIUTH|2EIS|2KUSMA|2LAGUS|2MANNA|2NAUTHS|2JER|2URUS",
     "2PAIRTHRA|2NINETY|2RAIDA|2SAUIL|2TEIWS|2WINJA|2FAIHU|2IGGWS|2HWAIR|2OTHAL|2NINE HUNDRED"]),
   (0x10350, [
     "0OLD PERMIC LETTER AN|3BUR|3GAI|3DOI|3E|3ZHOI|3DZHOI|3ZATA|3DZITA|3I|3KOKE|3LEI|3MENOE",
     "3NENOE|3VOOI|3PEEI|3REI|3SII|3TAI|3U|3CHERY|3SHOOI|3SHCHOOI|3YRY|3YERU|3O|3OO|3EF|3HA",
     "3TSIU|3VER|3YER|3YERI|3YAT|3IE|3YU|3YA|3IA|0COMBINING OLD PERMIC LETTER AN|4DOI|4ZATA",
     "4NENOE|4SII"]),
   (0x10380, [
     "0UGARITIC LETTER ALPA|2BETA|2GAMLA|2KHA|2DELTA|2HO|2WO|2ZETA|2HOTA|2TET|2YOD|2KAF|2SHIN",
     "2LAMDA|2MEM|2DHAL|2NUN|2ZU|2SAMKA|2AIN|2PU|2SADE|2QOPA|2RASHA|2THANNA|2GHAIN|2TO|2I|2U",
     "2SSU"]),
   (0x1039f, [
     "0UGARITIC WORD DIVIDER|0OLD PERSIAN SIGN A|3I|3U|3KA|3KU|3GA|3GU|3XA|3CA|3JA|3JI|3TA|3TU",
     "3DA|3DI|3DU|3THA|3PA|3BA|3FA|3NA|3NU|3MA|3MI|3MU|3YA|3VA|3VI|3RA|3RU|3LA|3SA|3ZA|3SHA|3SSA",
     "3HA"]),
   (0x103c8, [
     "0OLD PERSIAN SIGN AURAMAZDAA|3AURAMAZDAA-2|3AURAMAZDAAHA|3XSHAAYATHIYA|3DAHYAAUSH",
     "3DAHYAAUSH-2|3BAGA|3BUUMISH|2WORD DIVIDER|2NUMBER ONE|3TWO|3TEN|3TWENTY|3HUNDRED"]),
   (0x10400, [
     "0DESERET CAPITAL LETTER LONG I|4E|4A|4AH|4O|4OO|3SHORT I|4E|4A|4AH|4O|4OO|3AY|3OW|3WU|3YEE",
     "3H|3PEE|3BEE|3TEE|3DEE|3CHEE|3JEE|3KAY|3GAY|3EF|3VEE|3ETH|3THEE|3ES|3ZEE|3ESH|3ZHEE|3ER",
     "3EL|3EM|3EN|3ENG|3OI|3EW|1SMALL LETTER LONG I|4E|4A|4AH|4O|4OO|3SHORT I|4E|4A|4AH|4O|4OO",
     "3AY|3OW|3WU|3YEE|3H|3PEE|3BEE|3TEE|3DEE|3CHEE|3JEE|3KAY|3GAY|3EF|3VEE|3ETH|3THEE|3ES|3ZEE",
     "3ESH|3ZHEE|3ER|3EL|3EM|3EN|3ENG|3OI|3EW|0SHAVIAN LETTER PEEP|2TOT|2KICK|2FEE|2THIGH|2SO",
     "2SURE|2CHURCH|2YEA|2HUNG|2BIB|2DEAD|2GAG|2VOW|2THEY|2ZOO|2MEASURE|2JUDGE|2WOE|2HA-HA|2LOLL",
     "2MIME|2IF|2EGG|2ASH|2ADO|2ON|2WOOL|2OUT|2AH|2ROAR|2NUN|2EAT|2AGE|2ICE|2UP|2OAK|2OOZE|2OIL",
     "2AWE|2ARE|2OR|2AIR|2ERR|2ARRAY|2EAR|2IAN|2YEW|0OSMANYA LETTER ALEF|2BA|2TA|2JA|2XA|2KHA",
     "2DEEL|2RA|2SA|2SHIIN|2DHA|2CAYN|2GA|2FA|2QAAF|2KAAF|2LAAN|2MIIN|2NUUN|2WAW|2HA|2YA|2A|2E",
     "2I|2O|2U|2AA|2EE|2OO"]),
   (0x104a0, ["0OSMANYA DIGIT ZERO|2ONE|2TWO|2THREE|2FOUR|2FIVE|2SIX|2SEVEN|2EIGHT|2NINE"]),
   (0x104b0, [
     "0OSAGE CAPITAL LETTER A|3AI|3AIN|3AH|3BRA|3CHA|3EHCHA|3E|3EIN|3HA|3HYA|3I|3KA|3EHKA|3KYA",
     "3LA|3MA|3NA|3O|3OIN|3PA|3EHPA|3SA|3SHA|3TA|3EHTA|3TSA|3EHTSA|3TSHA|3DHA|3U|3WA|3KHA|3GHA",
     "3ZA|3ZHA"]),
   (0x104d8, [
     "0OSAGE SMALL LETTER A|3AI|3AIN|3AH|3BRA|3CHA|3EHCHA|3E|3EIN|3HA|3HYA|3I|3KA|3EHKA|3KYA|3LA",
     "3MA|3NA|3O|3OIN|3PA|3EHPA|3SA|3SHA|3TA|3EHTA|3TSA|3EHTSA|3TSHA|3DHA|3U|3WA|3KHA|3GHA|3ZA",
     "3ZHA"]),
   (0x10500, [
     "0ELBASAN LETTER A|2BE|2CE|2CHE|2DE|2NDE|2DHE|2EI|2E|2FE|2GE|2GJE|2HE|2I|2JE|2KE|2LE|2LLE",
     "2ME|2NE|2NA|2NJE|2O|2PE|2QE|2RE|2RRE|2SE|2SHE|2TE|2THE|2U|2VE|2XE|2Y|2ZE|2ZHE|2GHE|2GHAMMA",
     "2KHE"]),
   (0x10530, [
     "0CAUCASIAN ALBANIAN LETTER ALT|3BET|3GIM|3DAT|3EB|3ZARL|3EYN|3ZHIL|3TAS|3CHA|3YOWD|3ZHA",
     "3IRB|3SHA|3LAN|3INYA|3XEYN|3DYAN|3CAR|3JHOX|3KAR|3LYIT|3HEYT|3QAY|3AOR|3CHOY|3CHI|3CYAY",
     "3MAQ|3QAR|3NOWC|3DZYAY|3SHAK|3JAYN|3ON|3TYAY|3FAM|3DZAY|3CHAT|3PEN|3GHEYS|3RAT|3SEYK|3VEYZ",
     "3TIWR|3SHOY|3IWN|3CYAW|3CAYN|3YAYD|3PIWR|3KIW"]),
   (0x1056f, [
     "0CAUCASIAN ALBANIAN CITATION MARK|0VITHKUQI CAPITAL LETTER A|3BBE|3BE|3CE|3CHE|3DE|3DHE",
     "3EI|3E|3FE|3GA"]),
   (0x1057c, [
     "0VITHKUQI CAPITAL LETTER HA|3HHA|3I|3IJE|3JE|3KA|3LA|3LLA|3ME|3NE|3NJE|3O|3PE|3QA|3RE"]),
   (0x1058c, ["0VITHKUQI CAPITAL LETTER SE|3SHE|3TE|3THE|3U|3VE|3XE"]),
   (0x10594, ["0VITHKUQI CAPITAL LETTER Y|3ZE"]),
   (0x10597, ["0VITHKUQI SMALL LETTER A|3BBE|3BE|3CE|3CHE|3DE|3DHE|3EI|3E|3FE|3GA"]),
   (0x105a3, [
     "0VITHKUQI SMALL LETTER HA|3HHA|3I|3IJE|3JE|3KA|3LA|3LLA|3ME|3NE|3NJE|3O|3PE|3QA|3RE"]),
   (0x105b3, ["0VITHKUQI SMALL LETTER SE|3SHE|3TE|3THE|3U|3VE|3XE"]),
   (0x105bb, ["0VITHKUQI SMALL LETTER Y|3ZE"]),
   (0x10600, [
     "0LINEAR A SIGN AB001|3AB002|3AB003|3AB004|3AB005|3AB006|3AB007|3AB008|3AB009|3AB010|3AB011",
     "3AB013|3AB016|3AB017|3AB020|3AB021|3AB021F|3AB021M|3AB022|3AB022F|3AB022M|3AB023|3AB023M",
     "3AB024|3AB026|3AB027|3AB028|3A028B|3AB029|3AB030|3AB031|3AB034|3AB037|3AB038|3AB039|3AB040",
     "3AB041|3AB044|3AB045|3AB046|3AB047|3AB048|3AB049|3AB050|3AB051|3AB053|3AB054|3AB055|3AB056",
     "3AB057|3AB058|3AB059|3AB060|3AB061|3AB065|3AB066|3AB067|3AB069|3AB070|3AB073|3AB074|3AB076",
     "3AB077|3AB078|3AB079|3AB080|3AB081|3AB082|3AB085|3AB086|3AB087|3A100-102|3AB118|3AB120",
     "3A120B|3AB122|3AB123|3AB131A|3AB131B|3A131C|3AB164|3AB171|3AB180|3AB188|3AB191|3A301|3A302",
     "3A303|3A304|3A305|3A306|3A307|3A308|3A309A|3A309B|3A309C|3A310|3A311|3A312|3A313A|3A313B",
     "3A313C|3A314|3A315|3A316|3A317|3A318|3A319|3A320|3A321|3A322|3A323|3A324|3A325|3A326|3A327",
     "3A328|3A329|3A330|3A331|3A332|3A333|3A334|3A335|3A336|3A337|3A338|3A339|3A340|3A341|3A342",
     "3A343|3A344|3A345|3A346|3A347|3A348|3A349|3A350|3A351|3A352|3A353|3A354|3A355|3A356|3A357",
     "3A358|3A359|3A360|3A361|3A362|3A363|3A364|3A365|3A366|3A367|3A368|3A369|3A370|3A371",
     "3A400-VAS|3A401-VAS|3A402-VAS|3A403-VAS|3A404-VAS|3A405-VAS|3A406-VAS|3A407-VAS|3A408-VAS",
     "3A409-VAS|3A410-VAS|3A411-VAS|3A412-VAS|3A413-VAS|3A414-VAS|3A415-VAS|3A416-VAS|3A417-VAS",
     "3A418-VAS|3A501|3A502|3A503|3A504|3A505|3A506|3A508|3A509|3A510|3A511|3A512|3A513|3A515",
     "3A516|3A520|3A521|3A523|3A524|3A525|3A526|3A527|3A528|3A529|3A530|3A531|3A532|3A534|3A535",
     "3A536|3A537|3A538|3A539|3A540|3A541|3A542|3A545|3A547|3A548|3A549|3A550|3A551|3A552|3A553",
     "3A554|3A555|3A556|3A557|3A559|3A563|3A564|3A565|3A566|3A568|3A569|3A570|3A571|3A572|3A573",
     "3A574|3A575|3A576|3A577|3A578|3A579|3A580|3A581|3A582|3A583|3A584|3A585|3A586|3A587|3A588",
     "3A589|3A591|3A592|3A594|3A595|3A596|3A598|3A600|3A601|3A602|3A603|3A604|3A606|3A608|3A609",
     "3A610|3A611|3A612|3A613|3A614|3A615|3A616|3A617|3A618|3A619|3A620|3A621|3A622|3A623|3A624",
     "3A626|3A627|3A628|3A629|3A634|3A637|3A638|3A640|3A642|3A643|3A644|3A645|3A646|3A648|3A649",
     "3A651|3A652|3A653|3A654|3A655|3A656|3A657|3A658|3A659|3A660|3A661|3A662|3A663|3A664"]),
   (0x10740, [
     "0LINEAR A SIGN A701 A|3A702 B|3A703 D|3A704 E|3A705 F|3A706 H|3A707 J|3A708 K|3A709 L",
     "3A709-2 L2|3A709-3 L3|3A709-4 L4|3A709-6 L6|3A710 W|3A711 X|3A712 Y|3A713 OMEGA|3A714 ABB",
     "3A715 BB|3A717 DD|3A726 EYYY|3A732 JE"]),
   (0x10760, ["0LINEAR A SIGN A800|3A801|3A802|3A803|3A804|3A805|3A806|3A807"]),
   (0x10780, [
     "0MODIFIER LETTER SMALL CAPITAL AA|2SUPERSCRIPT TRIANGULAR COLON|3HALF TRIANGULAR COLON",
     "2SMALL AE|3CAPITAL B|3B WITH HOOK"]),
   (0x10787, [
     "0MODIFIER LETTER SMALL DZ DIGRAPH|5WITH RETROFLEX HOOK|6CURL|3DEZH DIGRAPH|3D WITH TAIL",
     "5HOOK|6AND TAIL|3REVERSED E|3CLOSED REVERSED OPEN E|3FENG DIGRAPH|3RAMS HORN|3CAPITAL G",
     "3G WITH HOOK|3CAPITAL G WITH HOOK|3H WITH STROKE|3CAPITAL H|3HENG WITH HOOK",
     "3DOTLESS J WITH STROKE AND HOOK|3LS DIGRAPH|3LZ DIGRAPH|3L WITH BELT|3CAPITAL L WITH BELT",
     "3L WITH RETROFLEX HOOK AND BELT|3LEZH|4WITH RETROFLEX HOOK|3TURNED Y|5WITH BELT",
     "3O WITH STROKE|3CAPITAL OE|3CLOSED OMEGA|3Q|3TURNED R WITH LONG LEG|8AND RETROFLEX HOOK",
     "3R WITH TAIL|5FISHHOOK|3CAPITAL R|3TC DIGRAPH WITH CURL|3TS DIGRAPH|5WITH RETROFLEX HOOK",
     "3TESH DIGRAPH|3T WITH RETROFLEX HOOK|3V WITH RIGHT HOOK"]),
   (0x107b2, [
     "0MODIFIER LETTER SMALL CAPITAL Y|2GLOTTAL STOP WITH STROKE",
     "2REVERSED GLOTTAL STOP WITH STROKE|2BILABIAL CLICK|2DENTAL CLICK|2LATERAL CLICK",
     "2ALVEOLAR CLICK|2RETROFLEX CLICK WITH RETROFLEX HOOK|2SMALL S WITH CURL"]),
   (0x10800, ["0CYPRIOT SYLLABLE A|2E|2I|2O|2U|2JA"]),
   (0x10808, ["0CYPRIOT SYLLABLE JO"]),
   (0x1080a, [
     "0CYPRIOT SYLLABLE KA|2KE|2KI|2KO|2KU|2LA|2LE|2LI|2LO|2LU|2MA|2ME|2MI|2MO|2MU|2NA|2NE|2NI",
     "2NO|2NU|2PA|2PE|2PI|2PO|2PU|2RA|2RE|2RI|2RO|2RU|2SA|2SE|2SI|2SO|2SU|2TA|2TE|2TI|2TO|2TU",
     "2WA|2WE|2WI|2WO"]),
   (0x10837, ["0CYPRIOT SYLLABLE XA|2XE"]),
   (0x1083c, ["0CYPRIOT SYLLABLE ZA"]),
   (0x1083f, [
     "0CYPRIOT SYLLABLE ZO|0IMPERIAL ARAMAIC LETTER ALEPH|3BETH|3GIMEL|3DALETH|3HE|3WAW|3ZAYIN",
     "3HETH|3TETH|3YODH|3KAPH|3LAMEDH|3MEM|3NUN|3SAMEKH|3AYIN|3PE|3SADHE|3QOPH|3RESH|3SHIN|3TAW"]),
   (0x10857, [
     "0IMPERIAL ARAMAIC SECTION SIGN|2NUMBER ONE|3TWO|3THREE|3TEN|3TWENTY|3ONE HUNDRED|4THOUSAND",
     "3TEN THOUSAND|0PALMYRENE LETTER ALEPH|2BETH|2GIMEL|2DALETH|2HE|2WAW|2ZAYIN|2HETH|2TETH",
     "2YODH|2KAPH|2LAMEDH|2MEM|2FINAL NUN|2NUN|2SAMEKH|2AYIN|2PE|2SADHE|2QOPH|2RESH|2SHIN|2TAW",
     "1LEFT-POINTING FLEURON|1RIGHT-POINTING FLEURON|1NUMBER ONE|2TWO|2THREE|2FOUR|2FIVE|2TEN",
     "2TWENTY|0NABATAEAN LETTER FINAL ALEPH|2ALEPH|2FINAL BETH|2BETH|2GIMEL|2DALETH|2FINAL HE",
     "2HE|2WAW|2ZAYIN|2HETH|2TETH|2FINAL YODH|2YODH|2FINAL KAPH|2KAPH|2FINAL LAMEDH|2LAMEDH",
     "2FINAL MEM|2MEM|2FINAL NUN|2NUN|2SAMEKH|2AYIN|2PE|2SADHE|2QOPH|2RESH|2FINAL SHIN|2SHIN",
     "2TAW"]),
   (0x108a7, [
     "0NABATAEAN NUMBER ONE|2TWO|2THREE|2FOUR|1CRUCIFORM NUMBER FOUR|1NUMBER FIVE|2TEN|2TWENTY",
     "2ONE HUNDRED"]),
   (0x108e0, [
     "0HATRAN LETTER ALEPH|2BETH|2GIMEL|2DALETH-RESH|2HE|2WAW|2ZAYN|2HETH|2TETH|2YODH|2KAPH",
     "2LAMEDH|2MEM|2NUN|2SAMEKH|2AYN|2PE|2SADHE|2QOPH"]),
   (0x108f4, ["0HATRAN LETTER SHIN|2TAW"]),
   (0x108fb, [
     "0HATRAN NUMBER ONE|2FIVE|2TEN|2TWENTY|2ONE HUNDRED|0PHOENICIAN LETTER ALF|2BET|2GAML|2DELT",
     "2HE|2WAU|2ZAI|2HET|2TET|2YOD|2KAF|2LAMD|2MEM|2NUN|2SEMK|2AIN|2PE|2SADE|2QOF|2ROSH|2SHIN",
     "2TAU|1NUMBER ONE|2TEN|2TWENTY|2ONE HUNDRED|2TWO|2THREE"]),
   (0x1091f, [
     "0PHOENICIAN WORD SEPARATOR|0LYDIAN LETTER A|2B|2G|2D|2E|2V|2I|2Y|2K|2L|2M|2N|2O|2R|2SS|2T",
     "2U|2F|2Q|2S|2TT|2AN|2EN|2LY|2NN|2C"]),
   (0x1093f, ["0LYDIAN TRIANGULAR MARK"]),
   (0x10980, [
     "0MEROITIC HIEROGLYPHIC LETTER A|3E|3I|3O|3YA|3WA|3BA|3BA-2|3PA|3MA|3NA|3NA-2|3NE|3NE-2|3RA",
     "3RA-2|3LA|3KHA|3HHA|3SA|3SA-2|3SE|3KA|3QA|3TA|3TA-2|3TE|3TE-2|3TO|3DA|2SYMBOL VIDJ|3VIDJ-2",
     "1CURSIVE LETTER A|3E|3I|3O|3YA|3WA|3BA|3PA|3MA|3NA|3NE|3RA|3LA|3KHA|3HHA|3SA|3ARCHAIC SA",
     "3SE|3KA|3QA|3TA|3TE|3TO|3DA"]),
   (0x109bc, [
     "0MEROITIC CURSIVE FRACTION ELEVEN TWELFTHS|3ONE HALF|2LOGOGRAM RMT|3IMN|2NUMBER ONE|3TWO",
     "3THREE|3FOUR|3FIVE|3SIX|3SEVEN|3EIGHT|3NINE|3TEN|3TWENTY|3THIRTY|3FORTY|3FIFTY|3SIXTY",
     "3SEVENTY"]),
   (0x109d2, [
     "0MEROITIC CURSIVE NUMBER ONE HUNDRED|3TWO HUNDRED|3THREE HUNDRED|3FOUR HUNDRED",
     "3FIVE HUNDRED|3SIX HUNDRED|3SEVEN HUNDRED|3EIGHT HUNDRED|3NINE HUNDRED|3ONE THOUSAND",
     "3TWO THOUSAND|3THREE THOUSAND|3FOUR THOUSAND|3FIVE THOUSAND|3SIX THOUSAND|3SEVEN THOUSAND",
     "3EIGHT THOUSAND|3NINE THOUSAND|3TEN THOUSAND|3TWENTY THOUSAND|3THIRTY THOUSAND",
     "3FORTY THOUSAND|3FIFTY THOUSAND|3SIXTY THOUSAND|3SEVENTY THOUSAND|3EIGHTY THOUSAND",
     "3NINETY THOUSAND|3ONE HUNDRED THOUSAND|3TWO HUNDRED THOUSAND|3THREE HUNDRED THOUSAND",
     "3FOUR HUNDRED THOUSAND|3FIVE HUNDRED THOUSAND|3SIX HUNDRED THOUSAND",
     "3SEVEN HUNDRED THOUSAND|3EIGHT HUNDRED THOUSAND|3NINE HUNDRED THOUSAND",
     "2FRACTION ONE TWELFTH|3TWO TWELFTHS|3THREE TWELFTHS|3FOUR TWELFTHS|3FIVE TWELFTHS",
     "3SIX TWELFTHS|3SEVEN TWELFTHS|3EIGHT TWELFTHS|3NINE TWELFTHS|3TEN TWELFTHS",
     "0KHAROSHTHI LETTER A|1VOWEL SIGN I|3U|3VOCALIC R"]),
   (0x10a05, ["0KHAROSHTHI VOWEL SIGN E|3O"]),
   (0x10a0c, [
     "0KHAROSHTHI VOWEL LENGTH MARK|1SIGN DOUBLE RING BELOW|2ANUSVARA|2VISARGA|1LETTER KA|2KHA",
     "2GA|2GHA"]),
   (0x10a15, ["0KHAROSHTHI LETTER CA|2CHA|2JA"]),
   (0x10a19, [
     "0KHAROSHTHI LETTER NYA|2TTA|2TTHA|2DDA|2DDHA|2NNA|2TA|2THA|2DA|2DHA|2NA|2PA|2PHA|2BA|2BHA",
     "2MA|2YA|2RA|2LA|2VA|2SHA|2SSA|2SA|2ZA|2HA|2KKA|2TTTHA|2TTTA|2VHA"]),
   (0x10a38, ["0KHAROSHTHI SIGN BAR ABOVE|2CAUDA|2DOT BELOW"]),
   (0x10a3f, [
     "0KHAROSHTHI VIRAMA|1DIGIT ONE|2TWO|2THREE|2FOUR|1NUMBER TEN|2TWENTY|2ONE HUNDRED|3THOUSAND",
     "1FRACTION ONE HALF"]),
   (0x10a50, [
     "0KHAROSHTHI PUNCTUATION DOT|2SMALL CIRCLE|2CIRCLE|2CRESCENT BAR|2MANGALAM|2LOTUS|2DANDA",
     "2DOUBLE DANDA|2LINES"]),
   (0x10a60, [
     "0OLD SOUTH ARABIAN LETTER HE|4LAMEDH|4HETH|4MEM|4QOPH|4WAW|4SHIN|4RESH|4BETH|4TAW|4SAT",
     "4KAPH|4NUN|4KHETH|4SADHE|4SAMEKH|4FE|4ALEF|4AYN|4DHADHE|4GIMEL|4DALETH|4GHAYN|4TETH|4ZAYN",
     "4DHALETH|4YODH|4THAW|4THETH|3NUMBER ONE|4FIFTY|3NUMERIC INDICATOR",
     "1NORTH ARABIAN LETTER HEH|4LAM|4HAH|4MEEM|4QAF|4WAW|4ES-2|4REH|4BEH|4TEH|4ES-1|4KAF|4NOON",
     "4KHAH|4SAD|4ES-3|4FEH|4ALEF|4AIN|4DAD|4GEEM|4DAL|4GHAIN|4TAH|4ZAIN|4THAL|4YEH|4THEH|4ZAH",
     "3NUMBER ONE|4TEN|4TWENTY"]),
   (0x10ac0, [
     "0MANICHAEAN LETTER ALEPH|2BETH|2BHETH|2GIMEL|2GHIMEL|2DALETH|2HE|2WAW|1SIGN UD",
     "1LETTER ZAYIN|2ZHAYIN|2JAYIN|2JHAYIN|2HETH|2TETH|2YODH|2KAPH|2XAPH|2KHAPH|2LAMEDH|2DHAMEDH",
     "2THAMEDH|2MEM|2NUN|2SAMEKH|2AYIN|2AAYIN|2PE|2FE|2SADHE|2QOPH|2XOPH|2QHOPH|2RESH|2SHIN",
     "2SSHIN|2TAW|1ABBREVIATION MARK ABOVE|3BELOW"]),
   (0x10aeb, [
     "0MANICHAEAN NUMBER ONE|2FIVE|2TEN|2TWENTY|2ONE HUNDRED|1PUNCTUATION STAR|2FLEURON",
     "2DOUBLE DOT WITHIN DOT|2DOT WITHIN DOT|3|2TWO DOTS|2LINE FILLER"]),
   (0x10b00, [
     "0AVESTAN LETTER A|2AA|2AO|2AAO|2AN|2AAN|2AE|2AEE|2E|2EE|2O|2OO|2I|2II|2U|2UU|2KE|2XE|2XYE",
     "2XVE|2GE|2GGE|2GHE|2CE|2JE|2TE|2THE|2DE|2DHE|2TTE|2PE|2FE|2BE|2BHE|2NGE|2NGYE|2NGVE|2NE",
     "2NYE|2NNE|2ME|2HME|2YYE|2YE|2VE|2RE|2LE|2SE|2ZE|2SHE|2ZHE|2SHYE|2SSHE|2HE"]),
   (0x10b39, [
     "0AVESTAN ABBREVIATION MARK|0TINY TWO DOTS OVER ONE DOT PUNCTUATION",
     "0SMALL TWO DOTS OVER ONE DOT PUNCTUATION|0LARGE TWO DOTS OVER ONE DOT PUNCTUATION",
     "1ONE DOT OVER TWO DOTS PUNCTUATION|1TWO RINGS OVER ONE RING PUNCTUATION",
     "1ONE RING OVER TWO RINGS PUNCTUATION|0INSCRIPTIONAL PARTHIAN LETTER ALEPH|3BETH|3GIMEL",
     "3DALETH|3HE|3WAW|3ZAYIN|3HETH|3TETH|3YODH|3KAPH|3LAMEDH|3MEM|3NUN|3SAMEKH|3AYIN|3PE|3SADHE",
     "3QOPH|3RESH|3SHIN|3TAW"]),
   (0x10b58, [
     "0INSCRIPTIONAL PARTHIAN NUMBER ONE|3TWO|3THREE|3FOUR|3TEN|3TWENTY|3ONE HUNDRED|4THOUSAND",
     "1PAHLAVI LETTER ALEPH|3BETH|3GIMEL|3DALETH|3HE|3WAW-AYIN-RESH|3ZAYIN|3HETH|3TETH|3YODH",
     "3KAPH|3LAMEDH|3MEM-QOPH|3NUN|3SAMEKH|3PE|3SADHE|3SHIN|3TAW"]),
   (0x10b78, [
     "0INSCRIPTIONAL PAHLAVI NUMBER ONE|3TWO|3THREE|3FOUR|3TEN|3TWENTY|3ONE HUNDRED|4THOUSAND",
     "0PSALTER PAHLAVI LETTER ALEPH|3BETH|3GIMEL|3DALETH|3HE|3WAW-AYIN-RESH|3ZAYIN|3HETH|3YODH",
     "3KAPH|3LAMEDH|3MEM-QOPH|3NUN|3SAMEKH|3PE|3SADHE|3SHIN|3TAW"]),
   (0x10b99, ["0PSALTER PAHLAVI SECTION MARK|2TURNED SECTION MARK|2FOUR DOTS WITH CROSS|5DOT"]),
   (0x10ba9, ["0PSALTER PAHLAVI NUMBER ONE|3TWO|3THREE|3FOUR|3TEN|3TWENTY|3ONE HUNDRED"]),
   (0x10c00, [
     "0OLD TURKIC LETTER ORKHON A|3YENISEI A|4AE|3ORKHON I|3YENISEI I|4E|3ORKHON O|4OE",
     "3YENISEI OE|3ORKHON AB|3YENISEI AB|3ORKHON AEB|3YENISEI AEB|3ORKHON AG|3YENISEI AG",
     "3ORKHON AEG|3YENISEI AEG|3ORKHON AD|3YENISEI AD|3ORKHON AED|4EZ|3YENISEI EZ|3ORKHON AY",
     "3YENISEI AY|3ORKHON AEY|3YENISEI AEY|3ORKHON AEK|3YENISEI AEK|3ORKHON OEK|3YENISEI OEK",
     "3ORKHON AL|3YENISEI AL|3ORKHON AEL|4ELT|4EM|4AN|4AEN|3YENISEI AEN|3ORKHON ENT|3YENISEI ENT",
     "3ORKHON ENC|3YENISEI ENC|3ORKHON ENY|3YENISEI ENY|4ANG|3ORKHON ENG|3YENISEI AENG",
     "3ORKHON EP|4OP|4IC|4EC|3YENISEI EC|3ORKHON AQ|3YENISEI AQ|3ORKHON IQ|3YENISEI IQ",
     "3ORKHON OQ|3YENISEI OQ|3ORKHON AR|3YENISEI AR|3ORKHON AER|4AS|4AES|4ASH|3YENISEI ASH",
     "3ORKHON ESH|3YENISEI ESH|3ORKHON AT|3YENISEI AT|3ORKHON AET|3YENISEI AET|3ORKHON OT|4BASH"]),
   (0x10c80, [
     "0OLD HUNGARIAN CAPITAL LETTER A|4AA|4EB|4AMB|4EC|4ENC|4ECS|4ED|4AND|4E|4CLOSE E|4EE|4EF",
     "4EG|4EGY|4EH|4I|4II|4EJ|4EK|4AK|4UNK|4EL|4ELY|4EM|4EN|4ENY|4O|4OO|4NIKOLSBURG OE",
     "4RUDIMENTA OE|4OEE|4EP|4EMP|4ER|4SHORT ER|4ES|4ESZ|4ET|4ENT|4ETY|4ECH|4U|4UU",
     "4NIKOLSBURG UE|4RUDIMENTA UE|4EV|4EZ|4EZS|4ENT-SHAPED SIGN|4US"]),
   (0x10cc0, [
     "0OLD HUNGARIAN SMALL LETTER A|4AA|4EB|4AMB|4EC|4ENC|4ECS|4ED|4AND|4E|4CLOSE E|4EE|4EF|4EG",
     "4EGY|4EH|4I|4II|4EJ|4EK|4AK|4UNK|4EL|4ELY|4EM|4EN|4ENY|4O|4OO|4NIKOLSBURG OE|4RUDIMENTA OE",
     "4OEE|4EP|4EMP|4ER|4SHORT ER|4ES|4ESZ|4ET|4ENT|4ETY|4ECH|4U|4UU|4NIKOLSBURG UE",
     "4RUDIMENTA UE|4EV|4EZ|4EZS|4ENT-SHAPED SIGN|4US"]),
   (0x10cfa, [
     "0OLD HUNGARIAN NUMBER ONE|3FIVE|3TEN|3FIFTY|3ONE HUNDRED|4THOUSAND",
     "0HANIFI ROHINGYA LETTER A|3BA|3PA|3TA|3TTA|3JA|3CA|3HA|3KHA|3FA|3DA|3DDA|3RA|3RRA|3ZA|3SA",
     "3SHA|3KA|3GA|3LA|3MA|3NA|3WA|3KINNA WA|3YA|3KINNA YA|3NGA|3NYA|3VA|2VOWEL A|3I|3U|3E|3O",
     "2MARK SAKIN|3NA KHONNA|2SIGN HARBAHAY|3TAHALA|3TANA|3TASSI"]),
   (0x10d30, ["0HANIFI ROHINGYA DIGIT ZERO|3ONE|3TWO|3THREE|3FOUR|3FIVE|3SIX|3SEVEN|3EIGHT|3NINE"]),
   (0x10e60, [
     "0RUMI DIGIT ONE|2TWO|2THREE|2FOUR|2FIVE|2SIX|2SEVEN|2EIGHT|2NINE|1NUMBER TEN|2TWENTY",
     "2THIRTY|2FORTY|2FIFTY|2SIXTY|2SEVENTY|2EIGHTY|2NINETY|2ONE HUNDRED|2TWO HUNDRED",
     "2THREE HUNDRED|2FOUR HUNDRED|2FIVE HUNDRED|2SIX HUNDRED|2SEVEN HUNDRED|2EIGHT HUNDRED",
     "2NINE HUNDRED|1FRACTION ONE HALF|3QUARTER|3THIRD|2TWO THIRDS"]),
   (0x10e80, [
     "0YEZIDI LETTER ELIF|2BE|2PE|2PHE|2THE|2SE|2CIM|2CHIM|2CHHIM|2HHA|2XA|2DAL|2ZAL|2RA|2RHA",
     "2ZA|2JA|2SIN|2SHIN|2SAD|2DAD|2TA|2ZE|2EYN|2XHEYN|2FA|2VA|3ALTERNATE FORM|2QAF|2KAF|2KHAF",
     "2GAF|2LAM|2MIM|2NUN|2UM|2WAW|2OW|2EW|2HAY|2YOT|2ET"]),
   (0x10eab, ["0YEZIDI COMBINING HAMZA MARK|2MADDA MARK|1HYPHENATION MARK"]),
   (0x10eb0, ["0YEZIDI LETTER LAM WITH DOT ABOVE|2YOT WITH CIRCUMFLEX ABOVE"]),
   (0x10f00, [
     "0OLD SOGDIAN LETTER ALEPH|3FINAL ALEPH|3BETH|3FINAL BETH|3GIMEL|3HE|3FINAL HE|3WAW|3ZAYIN",
     "3HETH|3YODH|3KAPH|3LAMEDH|3MEM|3NUN|3FINAL NUN|5WITH VERTICAL TAIL|3SAMEKH|3AYIN",
     "3ALTERNATE AYIN|3PE|3SADHE|3FINAL SADHE|5WITH VERTICAL TAIL|3RESH-AYIN-DALETH|3SHIN|3TAW",
     "3FINAL TAW|5WITH VERTICAL TAIL|2NUMBER ONE|3TWO|3THREE|3FOUR|3FIVE|3TEN|3TWENTY|3THIRTY",
     "3ONE HUNDRED|2FRACTION ONE HALF|2LIGATURE AYIN-DALETH"]),
   (0x10f30, [
     "0SOGDIAN LETTER ALEPH|2BETH|2GIMEL|2HE|2WAW|2ZAYIN|2HETH|2YODH|2KAPH|2LAMEDH|2MEM|2NUN",
     "2SAMEKH|2AYIN|2PE|2SADHE|2RESH-AYIN|2SHIN|2TAW|2FETH|2LESH|1INDEPENDENT SHIN",
     "1COMBINING DOT BELOW|2TWO DOTS BELOW|2DOT ABOVE|2TWO DOTS ABOVE|2CURVE ABOVE|3BELOW",
     "2HOOK ABOVE|3BELOW|2LONG HOOK BELOW|2RESH BELOW|2STROKE BELOW|1NUMBER ONE|2TEN|2TWENTY",
     "2ONE HUNDRED|1PUNCTUATION TWO VERTICAL BARS|5WITH DOTS|2CIRCLE WITH DOT",
     "2TWO CIRCLES WITH DOTS|2HALF CIRCLE WITH DOT"]),
   (0x10f70, [
     "0OLD UYGHUR LETTER ALEPH|3BETH|3GIMEL-HETH|3WAW|3ZAYIN|3FINAL HETH|3YODH|3KAPH|3LAMEDH",
     "3MEM|3NUN|3SAMEKH|3PE|3SADHE|3RESH|3SHIN|3TAW|3LESH|2COMBINING DOT ABOVE|4BELOW",
     "3TWO DOTS ABOVE|5BELOW|2PUNCTUATION BAR|3TWO BARS|4DOTS|3FOUR DOTS"]),
   (0x10fb0, [
     "0CHORASMIAN LETTER ALEPH|2SMALL ALEPH|2BETH|2GIMEL|2DALETH|2HE|2WAW|2CURLED WAW|2ZAYIN",
     "2HETH|2YODH|2KAPH|2LAMEDH|2MEM|2NUN|2SAMEKH|2AYIN|2PE|2RESH|2SHIN|2TAW|1NUMBER ONE|2TWO",
     "2THREE|2FOUR|2TEN|2TWENTY|2ONE HUNDRED"]),
   (0x10fe0, [
     "0ELYMAIC LETTER ALEPH|2BETH|2GIMEL|2DALETH|2HE|2WAW|2ZAYIN|2HETH|2TETH|2YODH|2KAPH|2LAMEDH",
     "2MEM|2NUN|2SAMEKH|2AYIN|2PE|2SADHE|2QOPH|2RESH|2SHIN|2TAW|1LIGATURE ZAYIN-YODH"]),
   (0x11000, [
     "0BRAHMI SIGN CANDRABINDU|2ANUSVARA|2VISARGA|2JIHVAMULIYA|2UPADHMANIYA|1LETTER A|2AA|2I|2II",
     "2U|2UU|2VOCALIC R|3RR|3L|3LL|2E|2AI|2O|2AU|2KA|2KHA|2GA|2GHA|2NGA|2CA|2CHA|2JA|2JHA|2NYA",
     "2TTA|2TTHA|2DDA|2DDHA|2NNA|2TA|2THA|2DA|2DHA|2NA|2PA|2PHA|2BA|2BHA|2MA|2YA|2RA|2LA|2VA",
     "2SHA|2SSA|2SA|2HA|2LLA|2OLD TAMIL LLLA|4RRA|4NNNA|1VOWEL SIGN AA|3BHATTIPROLU AA|3I|3II|3U",
     "3UU|3VOCALIC R|4RR|4L|4LL|3E|3AI|3O|3AU|1VIRAMA|1DANDA|1DOUBLE DANDA|1PUNCTUATION DOT",
     "2DOUBLE DOT|2LINE|2CRESCENT BAR|2LOTUS"]),
   (0x11052, [
     "0BRAHMI NUMBER ONE|2TWO|2THREE|2FOUR|2FIVE|2SIX|2SEVEN|2EIGHT|2NINE|2TEN|2TWENTY|2THIRTY",
     "2FORTY|2FIFTY|2SIXTY|2SEVENTY|2EIGHTY|2NINETY|2ONE HUNDRED|3THOUSAND|1DIGIT ZERO|2ONE|2TWO",
     "2THREE|2FOUR|2FIVE|2SIX|2SEVEN|2EIGHT|2NINE|1SIGN OLD TAMIL VIRAMA",
     "1LETTER OLD TAMIL SHORT E|5O|1VOWEL SIGN OLD TAMIL SHORT E|6O|1LETTER OLD TAMIL LLA"]),
   (0x1107f, [
     "0BRAHMI NUMBER JOINER|0KAITHI SIGN CANDRABINDU|2ANUSVARA|2VISARGA|1LETTER A|2AA|2I|2II|2U",
     "2UU|2E|2AI|2O|2AU|2KA|2KHA|2GA|2GHA|2NGA|2CA|2CHA|2JA|2JHA|2NYA|2TTA|2TTHA|2DDA|2DDDHA",
     "2DDHA|2RHA|2NNA|2TA|2THA|2DA|2DHA|2NA|2PA|2PHA|2BA|2BHA|2MA|2YA|2RA|2LA|2VA|2SHA|2SSA|2SA",
     "2HA|1VOWEL SIGN AA|3I|3II|3U|3UU|3E|3AI|3O|3AU|1SIGN VIRAMA|2NUKTA|1ABBREVIATION SIGN",
     "1ENUMERATION SIGN|1NUMBER SIGN|1SECTION MARK|1DOUBLE SECTION MARK|1DANDA|1DOUBLE DANDA",
     "1VOWEL SIGN VOCALIC R"]),
   (0x110cd, ["0KAITHI NUMBER SIGN ABOVE"]),
   (0x110d0, [
     "0SORA SOMPENG LETTER SAH|3TAH|3BAH|3CAH|3DAH|3GAH|3MAH|3NGAH|3LAH|3NAH|3VAH|3PAH|3YAH|3RAH",
     "3HAH|3KAH|3JAH|3NYAH|3AH|3EEH|3IH|3UH|3OH|3EH|3MAE"]),
   (0x110f0, ["0SORA SOMPENG DIGIT ZERO|3ONE|3TWO|3THREE|3FOUR|3FIVE|3SIX|3SEVEN|3EIGHT|3NINE"]),
   (0x11100, [
     "0CHAKMA SIGN CANDRABINDU|2ANUSVARA|2VISARGA|1LETTER AA|2I|2U|2E|2KAA|2KHAA|2GAA|2GHAA",
     "2NGAA|2CAA|2CHAA|2JAA|2JHAA|2NYAA|2TTAA|2TTHAA|2DDAA|2DDHAA|2NNAA|2TAA|2THAA|2DAA|2DHAA",
     "2NAA|2PAA|2PHAA|2BAA|2BHAA|2MAA|2YYAA|2YAA|2RAA|2LAA|2WAA|2SAA|2HAA|1VOWEL SIGN A|3I|3II",
     "3U|3UU|3E|3AI|3O|3AU|3OI|1O MARK|1AU MARK|1VIRAMA|1MAAYYAA"]),
   (0x11136, [
     "0CHAKMA DIGIT ZERO|2ONE|2TWO|2THREE|2FOUR|2FIVE|2SIX|2SEVEN|2EIGHT|2NINE|1SECTION MARK",
     "1DANDA|1DOUBLE DANDA|1QUESTION MARK|1LETTER LHAA|1VOWEL SIGN AA|3EI|1LETTER VAA"]),
   (0x11150, [
     "0MAHAJANI LETTER A|2I|2U|2E|2O|2KA|2KHA|2GA|2GHA|2CA|2CHA|2JA|2JHA|2NYA|2TTA|2TTHA|2DDA",
     "2DDHA|2NNA|2TA|2THA|2DA|2DHA|2NA|2PA|2PHA|2BA|2BHA|2MA|2RA|2LA|2VA|2SA|2HA|2RRA",
     "1SIGN NUKTA|1ABBREVIATION SIGN|1SECTION MARK|1LIGATURE SHRI"]),
   (0x11180, [
     "0SHARADA SIGN CANDRABINDU|2ANUSVARA|2VISARGA|1LETTER A|2AA|2I|2II|2U|2UU|2VOCALIC R|3RR|3L",
     "3LL|2E|2AI|2O|2AU|2KA|2KHA|2GA|2GHA|2NGA|2CA|2CHA|2JA|2JHA|2NYA|2TTA|2TTHA|2DDA|2DDHA|2NNA",
     "2TA|2THA|2DA|2DHA|2NA|2PA|2PHA|2BA|2BHA|2MA|2YA|2RA|2LA|2LLA|2VA|2SHA|2SSA|2SA|2HA",
     "1VOWEL SIGN AA|3I|3II|3U|3UU|3VOCALIC R|4RR|4L|4LL|3E|3AI|3O|3AU|1SIGN VIRAMA|2AVAGRAHA",
     "2JIHVAMULIYA|2UPADHMANIYA|1OM|1DANDA|1DOUBLE DANDA|1ABBREVIATION SIGN|1SEPARATOR",
     "1SANDHI MARK|1SIGN NUKTA|1VOWEL MODIFIER MARK|1EXTRA SHORT VOWEL MARK|1SUTRA MARK",
     "1VOWEL SIGN PRISHTHAMATRA E|1SIGN INVERTED CANDRABINDU|1DIGIT ZERO|2ONE|2TWO|2THREE|2FOUR",
     "2FIVE|2SIX|2SEVEN|2EIGHT|2NINE|1EKAM|1SIGN SIDDHAM|1HEADSTROKE|1CONTINUATION SIGN",
     "1SECTION MARK-1|2MARK-2"]),
   (0x111e1, [
     "0SINHALA ARCHAIC DIGIT ONE|3TWO|3THREE|3FOUR|3FIVE|3SIX|3SEVEN|3EIGHT|3NINE|2NUMBER TEN",
     "3TWENTY|3THIRTY|3FORTY|3FIFTY|3SIXTY|3SEVENTY|3EIGHTY|3NINETY|3ONE HUNDRED|4THOUSAND"]),
   (0x11200, [
     "0KHOJKI LETTER A|2AA|2I|2U|2E|2AI|2O|2AU|2KA|2KHA|2GA|2GGA|2GHA|2NGA|2CA|2CHA|2JA|2JJA"]),
   (0x11213, [
     "0KHOJKI LETTER NYA|2TTA|2TTHA|2DDA|2DDHA|2NNA|2TA|2THA|2DA|2DDDA|2DHA|2NA|2PA|2PHA|2BA",
     "2BBA|2BHA|2MA|2YA|2RA|2LA|2VA|2SA|2HA|2LLA|1VOWEL SIGN AA|3I|3II|3U|3E|3AI|3O|3AU",
     "1SIGN ANUSVARA|2VIRAMA|2NUKTA|2SHADDA|1DANDA|1DOUBLE DANDA|1WORD SEPARATOR|1SECTION MARK",
     "1DOUBLE SECTION MARK|1ABBREVIATION SIGN|1SIGN SUKUN"]),
   (0x11280, ["0MULTANI LETTER A|2I|2U|2E|2KA|2KHA|2GA"]),
   (0x11288, ["0MULTANI LETTER GHA"]),
   (0x1128a, ["0MULTANI LETTER CA|2CHA|2JA|2JJA"]),
   (0x1128f, [
     "0MULTANI LETTER NYA|2TTA|2TTHA|2DDA|2DDDA|2DDHA|2NNA|2TA|2THA|2DA|2DHA|2NA|2PA|2PHA|2BA"]),
   (0x1129f, ["0MULTANI LETTER BHA|2MA|2YA|2RA|2LA|2VA|2SA|2HA|2RRA|2RHA|1SECTION MARK"]),
   (0x112b0, [
     "0KHUDAWADI LETTER A|2AA|2I|2II|2U|2UU|2E|2AI|2O|2AU|2KA|2KHA|2GA|2GGA|2GHA|2NGA|2CA|2CHA",
     "2JA|2JJA|2JHA|2NYA|2TTA|2TTHA|2DDA|2DDDA|2RRA|2DDHA|2NNA|2TA|2THA|2DA|2DHA|2NA|2PA|2PHA",
     "2BA|2BBA|2BHA|2MA|2YA|2RA|2LA|2VA|2SHA|2SA|2HA|1SIGN ANUSVARA|1VOWEL SIGN AA|3I|3II|3U|3UU",
     "3E|3AI|3O|3AU|1SIGN NUKTA|2VIRAMA"]),
   (0x112f0, ["0KHUDAWADI DIGIT ZERO|2ONE|2TWO|2THREE|2FOUR|2FIVE|2SIX|2SEVEN|2EIGHT|2NINE"]),
   (0x11300, ["0GRANTHA SIGN COMBINING ANUSVARA ABOVE|2CANDRABINDU|2ANUSVARA|2VISARGA"]),
   (0x11305, ["0GRANTHA LETTER A|2AA|2I|2II|2U|2UU|2VOCALIC R|3L"]),
   (0x1130f, ["0GRANTHA LETTER EE|2AI"]),
   (0x11313, [
     "0GRANTHA LETTER OO|2AU|2KA|2KHA|2GA|2GHA|2NGA|2CA|2CHA|2JA|2JHA|2NYA|2TTA|2TTHA|2DDA|2DDHA",
     "2NNA|2TA|2THA|2DA|2DHA|2NA"]),
   (0x1132a, ["0GRANTHA LETTER PA|2PHA|2BA|2BHA|2MA|2YA|2RA"]),
   (0x11332, ["0GRANTHA LETTER LA|2LLA"]),
   (0x11335, ["0GRANTHA LETTER VA|2SHA|2SSA|2SA|2HA"]),
   (0x1133b, [
     "0COMBINING BINDU BELOW|0GRANTHA SIGN NUKTA|2AVAGRAHA|1VOWEL SIGN AA|3I|3II|3U|3UU",
     "3VOCALIC R|4RR"]),
   (0x11347, ["0GRANTHA VOWEL SIGN EE|3AI"]),
   (0x1134b, ["0GRANTHA VOWEL SIGN OO|3AU|1SIGN VIRAMA"]),
   (0x11350, ["0GRANTHA OM"]),
   (0x11357, ["0GRANTHA AU LENGTH MARK"]),
   (0x1135d, [
     "0GRANTHA SIGN PLUTA|1LETTER VEDIC ANUSVARA|3DOUBLE ANUSVARA|2VOCALIC RR|3LL",
     "1VOWEL SIGN VOCALIC L|4LL"]),
   (0x11366, ["0COMBINING GRANTHA DIGIT ZERO|3ONE|3TWO|3THREE|3FOUR|3FIVE|3SIX"]),
   (0x11370, ["0COMBINING GRANTHA LETTER A|3KA|3NA|3VI|3PA"]),
   (0x11400, [
     "0NEWA LETTER A|2AA|2I|2II|2U|2UU|2VOCALIC R|3RR|3L|3LL|2E|2AI|2O|2AU|2KA|2KHA|2GA|2GHA",
     "2NGA|2NGHA|2CA|2CHA|2JA|2JHA|2NYA|2NYHA|2TTA|2TTHA|2DDA|2DDHA|2NNA|2TA|2THA|2DA|2DHA|2NA",
     "2NHA|2PA|2PHA|2BA|2BHA|2MA|2MHA|2YA|2RA|2RHA|2LA|2LHA|2WA|2SHA|2SSA|2SA|2HA|1VOWEL SIGN AA",
     "3I|3II|3U|3UU|3VOCALIC R|4RR|4L|4LL|3E|3AI|3O|3AU|1SIGN VIRAMA|2CANDRABINDU|2ANUSVARA",
     "2VISARGA|2NUKTA|2AVAGRAHA|2FINAL ANUSVARA|1OM|1SIDDHI|1DANDA|1DOUBLE DANDA|1COMMA",
     "1GAP FILLER|1ABBREVIATION SIGN|1DIGIT ZERO|2ONE|2TWO|2THREE|2FOUR|2FIVE|2SIX|2SEVEN|2EIGHT",
     "2NINE|1DOUBLE COMMA|1PLACEHOLDER MARK"]),
   (0x1145d, [
     "0NEWA INSERTION SIGN|1SANDHI MARK|1LETTER VEDIC ANUSVARA|1SIGN JIHVAMULIYA|2UPADHMANIYA"]),
   (0x11480, [
     "0TIRHUTA ANJI|1LETTER A|2AA|2I|2II|2U|2UU|2VOCALIC R|3RR|3L|3LL|2E|2AI|2O|2AU|2KA|2KHA|2GA",
     "2GHA|2NGA|2CA|2CHA|2JA|2JHA|2NYA|2TTA|2TTHA|2DDA|2DDHA|2NNA|2TA|2THA|2DA|2DHA|2NA|2PA|2PHA",
     "2BA|2BHA|2MA|2YA|2RA|2LA|2VA|2SHA|2SSA|2SA|2HA|1VOWEL SIGN AA|3I|3II|3U|3UU|3VOCALIC R|4RR",
     "4L|4LL|3E|3SHORT E|3AI|3O|3SHORT O|3AU|1SIGN CANDRABINDU|2ANUSVARA|2VISARGA|2VIRAMA|2NUKTA",
     "2AVAGRAHA|1GVANG|1ABBREVIATION SIGN|1OM"]),
   (0x114d0, ["0TIRHUTA DIGIT ZERO|2ONE|2TWO|2THREE|2FOUR|2FIVE|2SIX|2SEVEN|2EIGHT|2NINE"]),
   (0x11580, [
     "0SIDDHAM LETTER A|2AA|2I|2II|2U|2UU|2VOCALIC R|3RR|3L|3LL|2E|2AI|2O|2AU|2KA|2KHA|2GA|2GHA",
     "2NGA|2CA|2CHA|2JA|2JHA|2NYA|2TTA|2TTHA|2DDA|2DDHA|2NNA|2TA|2THA|2DA|2DHA|2NA|2PA|2PHA|2BA",
     "2BHA|2MA|2YA|2RA|2LA|2VA|2SHA|2SSA|2SA|2HA|1VOWEL SIGN AA|3I|3II|3U|3UU|3VOCALIC R|4RR"]),
   (0x115b8, [
     "0SIDDHAM VOWEL SIGN E|3AI|3O|3AU|1SIGN CANDRABINDU|2ANUSVARA|2VISARGA|2VIRAMA|2NUKTA",
     "2SIDDHAM|1DANDA|1DOUBLE DANDA|1SEPARATOR DOT|2BAR|1REPETITION MARK-1|2MARK-2|2MARK-3",
     "1END OF TEXT MARK|1SECTION MARK WITH TRIDENT AND U-SHAPED ORNAMENTS|6DOTTED CRESCENTS",
     "4RAYS AND DOTTED CRESCENTS|7DOUBLE CRESCENTS|7TRIPLE CRESCENTS|3DOUBLE RING|5WITH RAYS",
     "3WITH DOUBLE CRESCENTS|4TRIPLE CRESCENTS|4QUADRUPLE CRESCENTS|4SEPTUPLE CRESCENTS",
     "4CIRCLES AND RAYS|6TWO ENCLOSURES|6FOUR ENCLOSURES|1LETTER THREE-CIRCLE ALTERNATE I",
     "2TWO-CIRCLE ALTERNATE I|4II|2ALTERNATE U|1VOWEL SIGN ALTERNATE U|4UU"]),
   (0x11600, [
     "0MODI LETTER A|2AA|2I|2II|2U|2UU|2VOCALIC R|3RR|3L|3LL|2E|2AI|2O|2AU|2KA|2KHA|2GA|2GHA",
     "2NGA|2CA|2CHA|2JA|2JHA|2NYA|2TTA|2TTHA|2DDA|2DDHA|2NNA|2TA|2THA|2DA|2DHA|2NA|2PA|2PHA|2BA",
     "2BHA|2MA|2YA|2RA|2LA|2VA|2SHA|2SSA|2SA|2HA|2LLA|1VOWEL SIGN AA|3I|3II|3U|3UU|3VOCALIC R",
     "4RR|4L|4LL|3E|3AI|3O|3AU|1SIGN ANUSVARA|2VISARGA|2VIRAMA|2ARDHACANDRA|1DANDA|1DOUBLE DANDA",
     "1ABBREVIATION SIGN|1SIGN HUVA"]),
   (0x11650, ["0MODI DIGIT ZERO|2ONE|2TWO|2THREE|2FOUR|2FIVE|2SIX|2SEVEN|2EIGHT|2NINE"]),
   (0x11660, [
     "0MONGOLIAN BIRGA WITH ORNAMENT|1ROTATED BIRGA|1DOUBLE BIRGA WITH ORNAMENT",
     "1TRIPLE BIRGA WITH ORNAMENT|1BIRGA WITH DOUBLE ORNAMENT|1ROTATED BIRGA WITH ORNAMENT",
     "4DOUBLE ORNAMENT|1INVERTED BIRGA|3WITH DOUBLE ORNAMENT|1SWIRL BIRGA|3WITH ORNAMENT",
     "4DOUBLE ORNAMENT|1TURNED SWIRL BIRGA WITH DOUBLE ORNAMENT"]),
   (0x11680, [
     "0TAKRI LETTER A|2AA|2I|2II|2U|2UU|2E|2AI|2O|2AU|2KA|2KHA|2GA|2GHA|2NGA|2CA|2CHA|2JA|2JHA",
     "2NYA|2TTA|2TTHA|2DDA|2DDHA|2NNA|2TA|2THA|2DA|2DHA|2NA|2PA|2PHA|2BA|2BHA|2MA|2YA|2RA|2LA",
     "2VA|2SHA|2SA|2HA|2RRA|1SIGN ANUSVARA|2VISARGA|1VOWEL SIGN AA|3I|3II|3U|3UU|3E|3AI|3O|3AU",
     "1SIGN VIRAMA|2NUKTA|1LETTER ARCHAIC KHA|1ABBREVIATION SIGN"]),
   (0x116c0, ["0TAKRI DIGIT ZERO|2ONE|2TWO|2THREE|2FOUR|2FIVE|2SIX|2SEVEN|2EIGHT|2NINE"]),
   (0x11700, [
     "0AHOM LETTER KA|2KHA|2NGA|2NA|2TA|2ALTERNATE TA|2PA|2PHA|2BA|2MA|2JA|2CHA|2THA|2RA|2LA|2SA",
     "2NYA|2HA|2A|2DA|2DHA|2GA|2ALTERNATE GA|2GHA|2BHA|2JHA|2ALTERNATE BA"]),
   (0x1171d, [
     "0AHOM CONSONANT SIGN MEDIAL LA|4RA|4LIGATING RA|1VOWEL SIGN A|3AA|3I|3II|3U|3UU|3E|3AW|3O",
     "3AI|3AM|1SIGN KILLER"]),
   (0x11730, [
     "0AHOM DIGIT ZERO|2ONE|2TWO|2THREE|2FOUR|2FIVE|2SIX|2SEVEN|2EIGHT|2NINE|1NUMBER TEN|2TWENTY",
     "1SIGN SMALL SECTION|2SECTION|2RULAI|1SYMBOL VI|1LETTER CA|2TTA|2TTHA|2DDA|2DDHA|2NNA|2LLA"]),
   (0x11800, [
     "0DOGRA LETTER A|2AA|2I|2II|2U|2UU|2E|2AI|2O|2AU|2KA|2KHA|2GA|2GHA|2NGA|2CA|2CHA|2JA|2JHA",
     "2NYA|2TTA|2TTHA|2DDA|2DDHA|2NNA|2TA|2THA|2DA|2DHA|2NA|2PA|2PHA|2BA|2BHA|2MA|2YA|2RA|2LA",
     "2VA|2SHA|2SSA|2SA|2HA|2RRA|1VOWEL SIGN AA|3I|3II|3U|3UU|3VOCALIC R|4RR|3E|3AI|3O|3AU",
     "1SIGN ANUSVARA|2VISARGA|2VIRAMA|2NUKTA|1ABBREVIATION SIGN"]),
   (0x118a0, [
     "0WARANG CITI CAPITAL LETTER NGAA|4A|4WI|4YU|4YA|4YO|4II|4UU|4E|4O|4ANG|4GA|4KO|4ENY|4YUJ",
     "4UC|4ENN|4ODD|4TTE|4NUNG|4DA|4AT|4AM|4BU|4PU|4HIYO|4HOLO|4HORR|4HAR|4SSUU|4SII|4VIYO",
     "2SMALL LETTER NGAA|4A|4WI|4YU|4YA|4YO|4II|4UU|4E|4O|4ANG|4GA|4KO|4ENY|4YUJ|4UC|4ENN|4ODD",
     "4TTE|4NUNG|4DA|4AT|4AM|4BU|4PU|4HIYO|4HOLO|4HORR|4HAR|4SSUU|4SII|4VIYO|2DIGIT ZERO|3ONE",
     "3TWO|3THREE|3FOUR|3FIVE|3SIX|3SEVEN|3EIGHT|3NINE|2NUMBER TEN|3TWENTY|3THIRTY|3FORTY|3FIFTY",
     "3SIXTY|3SEVENTY|3EIGHTY|3NINETY"]),
   (0x118ff, ["0WARANG CITI OM|0DIVES AKURU LETTER A|3AA|3I|3II|3U|3UU|3E"]),
   (0x11909, ["0DIVES AKURU LETTER O"]),
   (0x1190c, ["0DIVES AKURU LETTER KA|3KHA|3GA|3GHA|3NGA|3CA|3CHA|3JA"]),
   (0x11915, ["0DIVES AKURU LETTER NYA|3TTA"]),
   (0x11918, [
     "0DIVES AKURU LETTER DDA|3DDHA|3NNA|3TA|3THA|3DA|3DHA|3NA|3PA|3PHA|3BA|3BHA|3MA|3YA|3YYA",
     "3RA|3LA|3VA|3SHA|3SSA|3SA|3HA|3LLA|3ZA|2VOWEL SIGN AA|4I|4II|4U|4UU|4E"]),
   (0x11937, ["0DIVES AKURU VOWEL SIGN AI|4O"]),
   (0x1193b, [
     "0DIVES AKURU SIGN ANUSVARA|3CANDRABINDU|3HALANTA|2VIRAMA|2PREFIXED NASAL SIGN|2MEDIAL YA",
     "2INITIAL RA|2MEDIAL RA|2SIGN NUKTA|2DOUBLE DANDA|2GAP FILLER|2END OF TEXT MARK"]),
   (0x11950, ["0DIVES AKURU DIGIT ZERO|3ONE|3TWO|3THREE|3FOUR|3FIVE|3SIX|3SEVEN|3EIGHT|3NINE"]),
   (0x119a0, ["0NANDINAGARI LETTER A|2AA|2I|2II|2U|2UU|2VOCALIC R|3RR"]),
   (0x119aa, [
     "0NANDINAGARI LETTER E|2AI|2O|2AU|2KA|2KHA|2GA|2GHA|2NGA|2CA|2CHA|2JA|2JHA|2NYA|2TTA|2TTHA",
     "2DDA|2DDHA|2NNA|2TA|2THA|2DA|2DHA|2NA|2PA|2PHA|2BA|2BHA|2MA|2YA|2RA|2LA|2VA|2SHA|2SSA|2SA",
     "2HA|2LLA|2RRA|1VOWEL SIGN AA|3I|3II|3U|3UU|3VOCALIC R|4RR"]),
   (0x119da, [
     "0NANDINAGARI VOWEL SIGN E|3AI|3O|3AU|1SIGN ANUSVARA|2VISARGA|2VIRAMA|2AVAGRAHA|2SIDDHAM",
     "1HEADSTROKE|1VOWEL SIGN PRISHTHAMATRA E"]),
   (0x11a00, [
     "0ZANABAZAR SQUARE LETTER A|2VOWEL SIGN I|4UE|4U|4E|4OE|4O|4AI|4AU|4REVERSED I|3LENGTH MARK",
     "2LETTER KA|3KHA|3GA|3GHA|3NGA|3CA|3CHA|3JA|3NYA|3TTA|3TTHA|3DDA|3DDHA|3NNA|3TA|3THA|3DA",
     "3DHA|3NA|3PA|3PHA|3BA|3BHA|3MA|3TSA|3TSHA|3DZA|3DZHA|3ZHA|3ZA|3-A|3YA|3RA|3LA|3VA|3SHA",
     "3SSA|3SA|3HA|3KSSA|2FINAL CONSONANT MARK|2SIGN VIRAMA|3CANDRABINDU|4WITH ORNAMENT",
     "3CANDRA WITH ORNAMENT|3ANUSVARA|3VISARGA|2CLUSTER-INITIAL LETTER RA",
     "2CLUSTER-FINAL LETTER YA|4RA|4LA|4VA|2INITIAL HEAD MARK|2CLOSING HEAD MARK|2MARK TSHEG",
     "3SHAD|3DOUBLE SHAD|3LONG TSHEG|2INITIAL DOUBLE-LINED HEAD MARK",
     "2CLOSING DOUBLE-LINED HEAD MARK|2SUBJOINER"]),
   (0x11a50, [
     "0SOYOMBO LETTER A|1VOWEL SIGN I|3UE|3U|3E|3O|3OE|3AI|3AU|3VOCALIC R|4L|2LENGTH MARK",
     "1LETTER KA|2KHA|2GA|2GHA|2NGA|2CA|2CHA|2JA|2JHA|2NYA|2TTA|2TTHA|2DDA|2DDHA|2NNA|2TA|2THA",
     "2DA|2DHA|2NA|2PA|2PHA|2BA|2BHA|2MA|2TSA|2TSHA|2DZA|2ZHA|2ZA|2-A|2YA|2RA|2LA|2VA|2SHA|2SSA",
     "2SA|2HA|2KSSA|1SIGN JIHVAMULIYA|2UPADHMANIYA|1CLUSTER-INITIAL LETTER RA|3LA|3SHA|3SA",
     "1FINAL CONSONANT SIGN G|4K|4NG|4D|4N|4B|4M|4R|4L|4SH|4S|4-A|1SIGN ANUSVARA|2VISARGA",
     "1GEMINATION MARK|1SUBJOINER|1MARK TSHEG|2SHAD|2DOUBLE SHAD|2PLUTA",
     "1HEAD MARK WITH MOON AND SUN AND TRIPLE FLAME|8FLAME|7|1TERMINAL MARK-1|2MARK-2"]),
   (0x11ab0, [
     "0CANADIAN SYLLABICS NATTILIK HI|3HII|3HO|3HOO|3HA|3HAA|3SHRI|3SHRII|3SHRO|3SHROO|3SHRA",
     "3SHRAA|2SPE|2SPI|2SPO|2SPA|0PAU CIN HAU LETTER PA|4KA|4LA|4MA|4DA|4ZA|4VA|4NGA|4HA|4GA",
     "4KHA|4SA|4BA|4CA|4TA|4THA|4NA|4PHA|4RA|4FA|4CHA|4A|4E|4I|4O|4U|4UA|4IA|4FINAL P|5K|5T|5M",
     "5N|5L|5W|5NG|5Y|3RISING TONE LONG|5|3SANDHI GLOTTAL STOP|3RISING TONE LONG FINAL|5FINAL",
     "3SANDHI GLOTTAL STOP FINAL|4TONE LONG|5|5LONG FINAL|5FINAL|3MID-LEVEL TONE",
     "3GLOTTAL STOP VARIANT|3MID-LEVEL TONE LONG FINAL|5FINAL|3LOW-FALLING TONE LONG|5",
     "3GLOTTAL STOP|3LOW-FALLING TONE LONG FINAL|5FINAL|3GLOTTAL STOP FINAL"]),
   (0x11c00, ["0BHAIKSUKI LETTER A|2AA|2I|2II|2U|2UU|2VOCALIC R|3RR|3L"]),
   (0x11c0a, [
     "0BHAIKSUKI LETTER E|2AI|2O|2AU|2KA|2KHA|2GA|2GHA|2NGA|2CA|2CHA|2JA|2JHA|2NYA|2TTA|2TTHA",
     "2DDA|2DDHA|2NNA|2TA|2THA|2DA|2DHA|2NA|2PA|2PHA|2BA|2BHA|2MA|2YA|2RA|2LA|2VA|2SHA|2SSA|2SA",
     "2HA|1VOWEL SIGN AA|3I|3II|3U|3UU|3VOCALIC R|4RR|4L"]),
   (0x11c38, [
     "0BHAIKSUKI VOWEL SIGN E|3AI|3O|3AU|1SIGN CANDRABINDU|2ANUSVARA|2VISARGA|2VIRAMA|2AVAGRAHA",
     "1DANDA|1DOUBLE DANDA|1WORD SEPARATOR|1GAP FILLER-1|2FILLER-2"]),
   (0x11c50, [
     "0BHAIKSUKI DIGIT ZERO|2ONE|2TWO|2THREE|2FOUR|2FIVE|2SIX|2SEVEN|2EIGHT|2NINE|1NUMBER ONE",
     "2TWO|2THREE|2FOUR|2FIVE|2SIX|2SEVEN|2EIGHT|2NINE|2TEN|2TWENTY|2THIRTY|2FORTY|2FIFTY|2SIXTY",
     "2SEVENTY|2EIGHTY|2NINETY|1HUNDREDS UNIT MARK"]),
   (0x11c70, [
     "0MARCHEN HEAD MARK|1MARK SHAD|1LETTER KA|2KHA|2GA|2NGA|2CA|2CHA|2JA|2NYA|2TA|2THA|2DA|2NA",
     "2PA|2PHA|2BA|2MA|2TSA|2TSHA|2DZA|2WA|2ZHA|2ZA|2-A|2YA|2RA|2LA|2SHA|2SA|2HA|2A"]),
   (0x11c92, [
     "0MARCHEN SUBJOINED LETTER KA|3KHA|3GA|3NGA|3CA|3CHA|3JA|3NYA|3TA|3THA|3DA|3NA|3PA|3PHA|3BA",
     "3MA|3TSA|3TSHA|3DZA|3WA|3ZHA|3ZA"]),
   (0x11ca9, [
     "0MARCHEN SUBJOINED LETTER YA|3RA|3LA|3SHA|3SA|3HA|3A|1VOWEL SIGN AA|3I|3U|3E|3O",
     "1SIGN ANUSVARA|2CANDRABINDU"]),
   (0x11d00, ["0MASARAM GONDI LETTER A|3AA|3I|3II|3U|3UU|3E"]),
   (0x11d08, ["0MASARAM GONDI LETTER AI|3O"]),
   (0x11d0b, [
     "0MASARAM GONDI LETTER AU|3KA|3KHA|3GA|3GHA|3NGA|3CA|3CHA|3JA|3JHA|3NYA|3TTA|3TTHA|3DDA",
     "3DDHA|3NNA|3TA|3THA|3DA|3DHA|3NA|3PA|3PHA|3BA|3BHA|3MA|3YA|3RA|3LA|3VA|3SHA|3SSA|3SA|3HA",
     "3LLA|3KSSA|3JNYA|3TRA|2VOWEL SIGN AA|4I|4II|4U|4UU|4VOCALIC R"]),
   (0x11d3a, ["0MASARAM GONDI VOWEL SIGN E"]),
   (0x11d3c, ["0MASARAM GONDI VOWEL SIGN AI|4O"]),
   (0x11d3f, [
     "0MASARAM GONDI VOWEL SIGN AU|2SIGN ANUSVARA|3VISARGA|3NUKTA|3CANDRA|3HALANTA|2VIRAMA",
     "2REPHA|2RA-KARA"]),
   (0x11d50, ["0MASARAM GONDI DIGIT ZERO|3ONE|3TWO|3THREE|3FOUR|3FIVE|3SIX|3SEVEN|3EIGHT|3NINE"]),
   (0x11d60, ["0GUNJALA GONDI LETTER A|3AA|3I|3II|3U|3UU"]),
   (0x11d67, ["0GUNJALA GONDI LETTER EE|3AI"]),
   (0x11d6a, [
     "0GUNJALA GONDI LETTER OO|3AU|3YA|3VA|3BA|3BHA|3MA|3KA|3KHA|3TA|3THA|3LA|3GA|3GHA|3DA|3DHA",
     "3NA|3CA|3CHA|3TTA|3TTHA|3LLA|3JA|3JHA|3DDA|3DDHA|3NGA|3PA|3PHA|3HA|3RA|3SA|2VOWEL SIGN AA",
     "4I|4II|4U|4UU"]),
   (0x11d90, ["0GUNJALA GONDI VOWEL SIGN EE|4AI"]),
   (0x11d93, ["0GUNJALA GONDI VOWEL SIGN OO|4AU|2SIGN ANUSVARA|3VISARGA|2VIRAMA|2OM"]),
   (0x11da0, ["0GUNJALA GONDI DIGIT ZERO|3ONE|3TWO|3THREE|3FOUR|3FIVE|3SIX|3SEVEN|3EIGHT|3NINE"]),
   (0x11ee0, [
     "0MAKASAR LETTER KA|2GA|2NGA|2PA|2BA|2MA|2TA|2DA|2NA|2CA|2JA|2NYA|2YA|2RA|2LA|2VA|2SA|2A",
     "1ANGKA|1VOWEL SIGN I|3U|3E|3O|1PASSIMBANG|1END OF SECTION"]),
   (0x11fb0, ["0LISU LETTER YHA"]),
   (0x11fc0, [
     "0TAMIL FRACTION ONE THREE-HUNDRED-AND-TWENTIETH|3ONE-HUNDRED-AND-SIXTIETH|3EIGHTIETH",
     "3SIXTY-FOURTH|3FORTIETH|3THIRTY-SECOND|2THREE EIGHTIETHS|3SIXTY-FOURTHS|2ONE TWENTIETH",
     "3SIXTEENTH-1|3SIXTEENTH-2|3TENTH|3EIGHTH|2THREE TWENTIETHS|3SIXTEENTHS|2ONE FIFTH|3QUARTER",
     "3HALF-1|3HALF-2|2THREE QUARTERS|2DOWNSCALING FACTOR KIIZH|1SIGN NEL|2CEVITU|2AAZHAAKKU",
     "2UZHAKKU|2MUUVUZHAKKU|2KURUNI|2PATHAKKU|2MUKKURUNI|2KAACU|2PANAM|2PON|2VARAAKAN|2PAARAM",
     "2KUZHI|2VELI|1WET CULTIVATION SIGN|1DRY CULTIVATION SIGN|1LAND SIGN|1SALT PAN SIGN",
     "1TRADITIONAL CREDIT SIGN|2NUMBER SIGN|1CURRENT SIGN|1AND ODD SIGN|1SPENT SIGN|1TOTAL SIGN",
     "1IN POSSESSION SIGN|1STARTING FROM SIGN|1SIGN MUTHALIYA|2VAKAIYARAA"]),
   (0x11fff, [
     "0TAMIL PUNCTUATION END OF TEXT|0CUNEIFORM SIGN A|3TIMES A|4BAD|4GAN2 TENU|4HA|4IGI",
     "4LAGAR GUNU|4MUSH|4SAG|2A2|2AB|3TIMES ASH2|4DUN3 GUNU|4GAL|4GAN2 TENU|4HA|4IGI GUNU|4IMIN",
     "4LAGAB|4SHESH|4U PLUS U PLUS U|3GUNU|2AB2|3TIMES BALAG|4GAN2 TENU|4ME PLUS EN|4SHA3|4TAK4",
     "2AD|2AK|3TIMES ERIN2|4SHITA PLUS GISH|2AL|3TIMES AL|4DIM2|4GISH|4HA|4KAD3|4KI|4SHE|4USH",
     "2ALAN|2ALEPH|2AMAR|3TIMES SHE|2AN|3OVER AN|3THREE TIMES|3PLUS NAGA OPPOSING AN PLUS NAGA",
     "5SQUARED|2ANSHE|2APIN|2ARAD|3TIMES KUR|2ARKAB|2ASAL2|2ASH|3ZIDA TENU|3KABA TENU",
     "3OVER ASH TUG2 OVER TUG2 TUG2 OVER TUG2 PAP|5OVER ASH|7CROSSING ASH OVER ASH OVER ASH",
     "2ASH2|2ASHGAB|2BA|2BAD|2BAG3|2BAHAR2|2BAL|3OVER BAL|2BALAG|2BAR|2BARA2|2BI|3TIMES A|4GAR",
     "4IGI GUNU|2BU|3OVER BU AB|5UN|3CROSSING BU|2BULUG|3OVER BULUG|2BUR|2BUR2|2DA|2DAG",
     "3KISIM5 TIMES A PLUS MASH|5AMAR|5BALAG|5BI|5GA|6PLUS MASH|5GI|5GIR2|5GUD|5HA|5IR|6PLUS LU",
     "5KAK|5LA|5LU|6PLUS MASH2|5LUM|5NE|5PAP PLUS PAP|5SI|5TAK4|5U2 PLUS GIR2|5USH|2DAM|2DAR",
     "2DARA3|2DARA4|2DI|2DIB|2DIM|3TIMES SHE|2DIM2|2DIN|3KASKAL U GUNU DISH|2DISH|2DU|3OVER DU",
     "3GUNU|3SHESHIG|2DUB|3TIMES ESH2|2DUB2|2DUG|2DUGUD|2DUH|2DUN|2DUN3|3GUNU|4GUNU|2DUN4|2DUR2",
     "2E|3TIMES PAP|3OVER E NUN OVER NUN|2E2|3TIMES A PLUS HA PLUS DA|4GAR|4MI|4SAL|4SHE|4U",
     "2EDIN|2EGIR|2EL|2EN|3TIMES GAN2|5TENU|4ME|3CROSSING EN|3OPPOSING EN|3SQUARED|2EREN|2ERIN2",
     "2ESH2|2EZEN|3TIMES A|5PLUS LAL|7TIMES LAL|4AN|4BAD|4DUN3 GUNU|6GUNU|4HA|5GUNU|4IGI GUNU",
     "4KASKAL|5SQUARED|4KU3|4LA|4LAL TIMES LAL|4LI|4LU|4U2|4UD|2GA|3GUNU|2GA2",
     "3TIMES A PLUS DA PLUS HA|6HA|6IGI|4AB2 TENU PLUS TAB|4AN|4ASH|4ASH2 PLUS GAL|4BAD",
     "4BAR PLUS RA|4BUR|5PLUS RA|4DA|4DI|4DIM TIMES SHE|4DUB|4EL|5PLUS LA|4EN|5TIMES GAN2 TENU",
     "4GAN2 TENU|4GAR|4GI|4GI4|5PLUS A|4GIR2 PLUS SU|4HA PLUS LU PLUS ESH2|4HAL|5PLUS LA",
     "4HI PLUS LI|4HUB2|4IGI GUNU|4ISH PLUS HU PLUS ASH|4KAK|4KASKAL|4KID|5PLUS LAL|4KU3 PLUS AN",
     "4LA|4ME PLUS EN|4MI|4NUN|5OVER NUN|4PA|4SAL|4SAR|4SHE|5PLUS TUR|4SHID|4SUM|4TAK4|4U|4UD",
     "5PLUS DU|3OVER GA2|2GABA|3CROSSING GABA|2GAD|3OVER GAD GAR OVER GAR|2GAL",
     "3GAD OVER GAD GAR OVER GAR|2GALAM|2GAM|2GAN|2GAN2|3TENU|3OVER GAN2|3CROSSING GAN2|2GAR",
     "2GAR3|2GASHAN|2GESHTIN|3TIMES KUR|2GI|3TIMES E|4U|3CROSSING GI|2GI4|3OVER GI4",
     "3CROSSING GI4|2GIDIM|2GIR2|3GUNU|2GIR3|3TIMES A PLUS IGI|4GAN2 TENU|4IGI|4LU PLUS IGI|4PA",
     "2GISAL|2GISH|3CROSSING GISH|3TIMES BAD|4TAK4|3TENU|2GU|3CROSSING GU|2GU2|3TIMES KAK",
     "5TIMES IGI GUNU|4NUN|4SAL PLUS TUG2|3GUNU|2GUD|3TIMES A PLUS KUR|4KUR|3OVER GUD LUGAL|2GUL",
     "2GUM|3TIMES SHE|2GUR|2GUR7|2GURUN|2GURUSH|2HA|3TENU|3GUNU|2HAL|2HI|3TIMES ASH|4ASH2|4BAD",
     "4DISH|4GAD|4KIN|4NUN|4SHE|4U|2HU|2HUB2|3TIMES AN|4HAL|4KASKAL|4LISH|4UD|2HUL2|2I|3A|2IB",
     "2IDIM|3OVER IDIM BUR|5SQUARED|2IG|2IGI|3DIB|3RI|3OVER IGI SHIR OVER SHIR UD OVER UD|3GUNU",
     "2IL|3TIMES GAN2 TENU|2IL2|2IM|3TIMES TAK4|3CROSSING IM|3OPPOSING IM|3SQUARED|2IMIN|2IN|2IR",
     "2ISH|2KA|3TIMES A|4AD|5PLUS KU3|4ASH2|4BAD|4BALAG|4BAR|4BI|4ERIN2|4ESH2|4GA|4GAL",
     "4GAN2 TENU|4GAR|5PLUS SHA3 PLUS A|4GI|4GIR2|4GISH PLUS SAR|5CROSSING GISH|4GU|4GUR7|4IGI",
     "4IM|4KAK|4KI|4KID|4LI|4LU|4ME|5PLUS DU|6GI|6TE|4MI|5PLUS NUNUZ|4NE|4NUN|4PI|4RU|4SA|4SAR",
     "4SHA|4SHE|4SHID|4SHU|4SIG|4SUHUR|4TAR|4U|4U2|4UD|4UMUM TIMES PA|4USH|4ZI|2KA2",
     "3CROSSING KA2|2KAB|2KAD2|2KAD3|2KAD4|2KAD5|3OVER KAD5|2KAK|3TIMES IGI GUNU|2KAL|3TIMES BAD",
     "3CROSSING KAL|2KAM2|2KAM4|2KASKAL|3LAGAB TIMES U OVER LAGAB TIMES U",
     "3OVER KASKAL LAGAB TIMES U OVER LAGAB TIMES U|2KESH2|2KI|3TIMES BAD|4U|4UD|2KID|2KIN",
     "2KISAL|2KISH|2KISIM5|3OVER KISIM5|2KU|3OVER HI TIMES ASH2 KU OVER HI TIMES ASH2|2KU3|2KU4",
     "3VARIANT FORM|2KU7|2KUL|3GUNU|2KUN|2KUR|3OPPOSING KUR|2KUSHU2|2KWU318|2LA|2LAGAB|3TIMES A",
     "5PLUS DA PLUS HA|6GAR|6LAL|4AL|4AN|4ASH ZIDA TENU|4BAD|4BI|4DAR|4EN|4GA|4GAR|4GUD",
     "5PLUS GUD|4HA|4HAL|4HI TIMES NUN|4IGI GUNU|4IM|5PLUS HA|6LU|4KI|4KIN|4KU3|4KUL",
     "5PLUS HI PLUS A|4LAGAB|4LISH|4LU|4LUL|4ME|5PLUS EN|4MUSH|4NE|4SHE PLUS SUM",
     "4SHITA PLUS GISH PLUS ERIN2|7TENU|4SHU2|5PLUS SHU2|4SUM|4TAG|4TAK4",
     "4TE PLUS A PLUS SU PLUS NA|4U|5PLUS A|6U PLUS U|4U2 PLUS ASH|4UD|4USH|3SQUARED|2LAGAR",
     "3TIMES SHE|5PLUS SUM|3GUNU|4OVER LAGAR GUNU SHE|2LAHSHU|2LAL|3TIMES LAL|2LAM|3TIMES KUR",
     "5PLUS RU|2LI|2LIL|2LIMMU2|2LISH|2LU|3TIMES BAD|2LU2|3TIMES AL|4BAD|4ESH2|5TENU|4GAN2 TENU",
     "4HI TIMES BAD|4IM|4KAD2|4KAD3|5PLUS ASH|4KI|4LA PLUS ASH|4LAGAB|4ME PLUS EN|4NE|4NU",
     "4SI PLUS ASH|4SIK2 PLUS BU|4TUG2|3TENU|3CROSSING LU2|3OPPOSING LU2|3SQUARED|3SHESHIG|2LU3",
     "2LUGAL|3OVER LUGAL|3OPPOSING LUGAL|3SHESHIG|2LUH|2LUL|2LUM|3OVER LUM|5GAR OVER GAR|2MA",
     "3TIMES TAK4|3GUNU|2MA2|2MAH|2MAR|2MASH|2MASH2|2ME|2MES|2MI|2MIN|2MU|3OVER MU|2MUG|3GUNU",
     "2MUNSUB|2MURGU2|2MUSH|3TIMES A|4KUR|4ZA|3OVER MUSH|5TIMES A PLUS NA|3CROSSING MUSH|2MUSH3",
     "3TIMES A|5PLUS DI|4DI|3GUNU|2NA|2NA2|2NAGA|3INVERTED|3TIMES SHU TENU|3OPPOSING NAGA|2NAGAR",
     "2NAM NUTILLU|3|2NAM2|2NE|3TIMES A|4UD|3SHESHIG|2NI|3TIMES E|2NI2|2NIM|3TIMES GAN2 TENU",
     "4GAR PLUS GAN2 TENU|2NINDA2|3TIMES AN|4ASH|5PLUS ASH|4GUD|4ME PLUS GAN2 TENU|4NE|4NUN|4SHE",
     "5PLUS A AN|6ASH|7PLUS ASH|4U2 PLUS ASH|4USH|2NISAG|2NU|2NU11|2NUN|3LAGAR TIMES GAR|5MASH",
     "5SAL|6OVER NUN LAGAR TIMES SAL|5USH|3TENU|3OVER NUN|3CROSSING NUN|5LAGAR OVER LAGAR|2NUNUZ",
     "3AB2 TIMES ASHGAB|5BI|5DUG|5GUD|5IGI GUNU|5KAD3|5LA|5NE|5SILA3|5U2|3KISIM5 TIMES BI|6U|2PA",
     "2PAD|2PAN|2PAP|2PESH2|2PI|3TIMES A|4AB|4BI|4BU|4E|4I|4IB|4U|4U2|3CROSSING PI|2PIRIG",
     "3TIMES KAL|4UD|4ZA|3OPPOSING PIRIG|2RA|2RAB|2RI|2RU|2SA|2SAG NUTILLU|3|3TIMES A|4DU|4DUB",
     "4HA|4KAK|4KUR|4LUM|4MI|4NUN|4SAL|4SHID|4TAB|4U2|4UB|4UM|4UR|4USH|3OVER SAG|3GUNU|2SAL",
     "3LAGAB TIMES ASH2|2SANGA2|2SAR|2SHA|2SHA3|3TIMES A|4BAD|4GISH|4NE|4SHU2|4TUR|4U|5PLUS A",
     "2SHA6|2SHAB6|2SHAR2|2SHE|3HU|3OVER SHE GAD OVER GAD GAR OVER GAR",
     "5TAB OVER TAB GAR OVER GAR|2SHEG9|2SHEN|2SHESH|2SHESH2|2SHESHLAM|2SHID|3TIMES A|4IM|2SHIM",
     "3TIMES A|4BAL|4BULUG|4DIN|4GAR|4IGI|5GUNU|4KUSHU2|4LUL|4MUG|4SAL|2SHINIG|2SHIR|3TENU",
     "3OVER SHIR BUR OVER BUR|2SHITA|2SHU|3OVER INVERTED SHU|2SHU2|2SHUBUR|2SI|3GUNU|2SIG|2SIG4",
     "3OVER SIG4 SHU2|2SIK2|2SILA3|2SU|3OVER SU|2SUD|2SUD2|2SUHUR|2SUM|2SUMASH|2SUR|2SUR9|2TA",
     "3ASTERISK|3TIMES HI|4MI|3GUNU|2TAB|3OVER TAB NI OVER NI DISH OVER DISH|3SQUARED|2TAG",
     "3TIMES BI|4GUD|4SHE|4SHU|4TUG2|4UD|2TAK4|2TAR|2TE|3GUNU|2TI|3TENU|2TIL|2TIR|3TIMES TAK4",
     "3OVER TIR|5GAD OVER GAD GAR OVER GAR|2TU|2TUG2|2TUK|2TUM|2TUR|3OVER TUR ZA OVER ZA|2U|3GUD",
     "3U U|3OVER U PA OVER PA GAR OVER GAR|5SUR OVER SUR|5U REVERSED OVER U REVERSED|2U2|2UB|2UD",
     "3KUSHU2|3TIMES BAD|4MI|4U PLUS U PLUS U|9GUNU|3GUNU|3SHESHIG|4TIMES BAD|2UDUG|2UM",
     "3TIMES LAGAB|4ME PLUS DA|4SHA3|4U|2UMBIN|2UMUM|3TIMES KASKAL|4PA|2UN|3GUNU|2UR",
     "3CROSSING UR|3SHESHIG|2UR2|3TIMES A PLUS HA|6NA|4AL|4HA|4NUN|4U2|5PLUS ASH|6BI|2UR4|2URI",
     "2URI3|2URU|3TIMES A|4ASHGAB|4BAR|4DUN|4GA|4GAL|4GAN2 TENU|4GAR|4GU|4HA|4IGI|4IM|4ISH|4KI",
     "4LUM|4MIN|4PA|4SHE|4SIG4|4TU|4U PLUS GUD|4UD|4URUDA|2URUDA|3TIMES U|2USH|3TIMES A|4KU|4KUR",
     "4TAK4|2USHX|2USH2|2USHUMX|2UTUKI|2UZ3|3TIMES KASKAL|2UZU|2ZA|3TENU|3SQUARED TIMES KUR|2ZAG",
     "2ZAMX|2ZE2|2ZI|3OVER ZI|2ZI3|2ZIB|3KABA TENU|2ZIG|2ZIZ2|2ZU|2ZU5|3TIMES A|2ZUBUR|2ZUM",
     "2KAP ELAMITE|2AB TIMES NUN|2AB2 TIMES A|2AMAR TIMES KUG|2DAG KISIM5 TIMES U2 PLUS MASH",
     "2DAG3|2DISH PLUS SHU|2DUB TIMES SHE|2EZEN TIMES GUD|4SHE|2GA2 TIMES AN PLUS KAK PLUS A",
     "4ASH2|2GE22|2GIG|2HUSH|2KA TIMES ANSHE|4ASH3|4GISH|4GUD|4HI TIMES ASH2|4LUM|4PA|4SHUL|4TU",
     "4UR2|2LAGAB TIMES GI|2LU2 SHESHIG TIMES BAD|3TIMES ESH2 PLUS LAL|4SHU|2MESH",
     "2MUSH3 TIMES ZA|2NA4|2NIN|2NIN9|2NINDA2 TIMES BAL|4GI|2NU11 ROTATED NINETY DEGREES",
     "2PESH2 ASTERISK|2PIR2|2SAG TIMES IGI GUNU|2TI2|2UM TIMES ME|2U U"])]

end CourseAudit.Text.Name
