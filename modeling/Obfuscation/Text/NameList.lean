/-!
The character names of the Unicode Character Database, version 14.0, and the formal name
aliases, front-coded: each record is a code-point step in letters `a` to `m`, a shared-prefix
length in letters `n` to `z`, and the rest of the name.
-/

namespace Obfuscation.Text

def characterNameRecordsPart1 : String :=
  String.join
    ["cgSPACEbEXCLAMATION MARKbQUOTATION MARKbNUMBER SIGNbDOLLAR SIGNbPERCENT SIGNbAMPERSANDboPOSTROPH",
     "EbLEFT PARENTHESISbRIGHT PARENTHESISbASTERISKbPLUS SIGNbCOMMAbHYPHEN-MINUSbFULL STOPbSOLIDUSbDIG",
     "IT ZERObtONEbtTWObuHREEbtFOURbuIVEbtSIXbuEVENbtEIGHTbtNINEbCOLONbSEMICOLONbLESS-THAN SIGNbEQUALS",
     " SIGNbGREATER-THAN SIGNbQUESTION MARKbCOMMERCIAL ATbLATIN CAPITAL LETTER AbovBbovCbovDbovEbovFbo",
     "vGbovHbovIbovJbovKbovLbovMbovNbovObovPbovQbovRbovSbovTbovUbovVbovWbovXbovYbovZboEFT SQUARE BRACK",
     "ETbREVERSE SOLIDUSboIGHT SQUARE BRACKETbCIRCUMFLEX ACCENTbLOW LINEbGRAVE ACCENTbLATIN SMALL LETT",
     "ER AbotBbotCbotDbotEbotFbotGbotHbotIbotJbotKbotLbotMbotNbotObotPbotQbotRbotSbotTbotUbotVbotWbotX",
     "botYbotZboEFT CURLY BRACKETbVERTICAL LINEbRIGHT CURLY BRACKETbTILDEciNO-BREAK SPACEbINVERTED EXC",
     "LAMATION MARKbCENT SIGNbPOUND SIGNbCURRENCY SIGNbYEN SIGNbBROKEN BARbSECTION SIGNbDIAERESISbCOPY",
     "RIGHT SIGNbFEMININE ORDINAL INDICATORbLEFT-POINTING DOUBLE ANGLE QUOTATION MARKbNOT SIGNbSOFT HY",
     "PHENbREGISTERED SIGNbMACRONbDEGREE SIGNbPLUS-MINUS SIGNbSUPERSCRIPT TWObonHREEbACUTE ACCENTbMICR",
     "O SIGNbPILCROW SIGNbMIDDLE DOTbCEDILLAbSUPERSCRIPT ONEbMASCULINE ORDINAL INDICATORbRIGHT-POINTIN",
     "G DOUBLE ANGLE QUOTATION MARKbVULGAR FRACTION ONE QUARTERbouHALFboqTHREE QUARTERSbINVERTED QUEST",
     "ION MARKbLATIN CAPITAL LETTER A WITH GRAVEbppACUTEbppCIRCUMFLEXbppTILDEbppDIAERESISbppRING ABOVE",
     "bowEbovC WITH CEDILLAbovE WITH GRAVEbppACUTEbppCIRCUMFLEXbppDIAERESISbovI WITH GRAVEbppACUTEbppC",
     "IRCUMFLEXbppDIAERESISbovETHbovN WITH TILDEbovO WITH GRAVEbppACUTEbppCIRCUMFLEXbppTILDEbppDIAERES",
     "ISbMULTIPLICATION SIGNbLATIN CAPITAL LETTER O WITH STROKEbovU WITH GRAVEbppACUTEbppCIRCUMFLEXbpp",
     "DIAERESISbovY WITH ACUTEbovTHORNbtSMALL LETTER SHARP SbotA WITH GRAVEbpnACUTEbpnCIRCUMFLEXbpnTIL",
     "DEbpnDIAERESISbpnRING ABOVEbouEbotC WITH CEDILLAbotE WITH GRAVEbpnACUTEbpnCIRCUMFLEXbpnDIAERESIS",
     "botI WITH GRAVEbpnACUTEbpnCIRCUMFLEXbpnDIAERESISbotETHbotN WITH TILDEbotO WITH GRAVEbpnACUTEbpnC",
     "IRCUMFLEXbpnTILDEbpnDIAERESISbDIVISION SIGNbLATIN SMALL LETTER O WITH STROKEbotU WITH GRAVEbpnAC",
     "UTEbpnCIRCUMFLEXbpnDIAERESISbotY WITH ACUTEbotTHORNbotY WITH DIAERESISbtCAPITAL LETTER A WITH MA",
     "CRONbtSMALL LETTER A WITH MACRONbtCAPITAL LETTER A WITH BREVEbtSMALL LETTER A WITH BREVEbtCAPITA",
     "L LETTER A WITH OGONEKbtSMALL LETTER A WITH OGONEKbtCAPITAL LETTER C WITH ACUTEbtSMALL LETTER C ",
     "WITH ACUTEbtCAPITAL LETTER C WITH CIRCUMFLEXbtSMALL LETTER C WITH CIRCUMFLEXbtCAPITAL LETTER C W",
     "ITH DOT ABOVEbtSMALL LETTER C WITH DOT ABOVEbtCAPITAL LETTER C WITH CARONbtSMALL LETTER C WITH C",
     "ARONbtCAPITAL LETTER D WITH CARONbtSMALL LETTER D WITH CARONbtCAPITAL LETTER D WITH STROKEbtSMAL",
     "L LETTER D WITH STROKEbtCAPITAL LETTER E WITH MACRONbtSMALL LETTER E WITH MACRONbtCAPITAL LETTER",
     " E WITH BREVEbtSMALL LETTER E WITH BREVEbtCAPITAL LETTER E WITH DOT ABOVEbtSMALL LETTER E WITH D",
     "OT ABOVEbtCAPITAL LETTER E WITH OGONEKbtSMALL LETTER E WITH OGONEKbtCAPITAL LETTER E WITH CARONb",
     "tSMALL LETTER E WITH CARONbtCAPITAL LETTER G WITH CIRCUMFLEXbtSMALL LETTER G WITH CIRCUMFLEXbtCA",
     "PITAL LETTER G WITH BREVEbtSMALL LETTER G WITH BREVEbtCAPITAL LETTER G WITH DOT ABOVEbtSMALL LET",
     "TER G WITH DOT ABOVEbtCAPITAL LETTER G WITH CEDILLAbtSMALL LETTER G WITH CEDILLAbtCAPITAL LETTER",
     " H WITH CIRCUMFLEXbtSMALL LETTER H WITH CIRCUMFLEXbtCAPITAL LETTER H WITH STROKEbtSMALL LETTER H",
     " WITH STROKEbtCAPITAL LETTER I WITH TILDEbtSMALL LETTER I WITH TILDEbtCAPITAL LETTER I WITH MACR",
     "ONbtSMALL LETTER I WITH MACRONbtCAPITAL LETTER I WITH BREVEbtSMALL LETTER I WITH BREVEbtCAPITAL ",
     "LETTER I WITH OGONEKbtSMALL LETTER I WITH OGONEKbtCAPITAL LETTER I WITH DOT ABOVEbtSMALL LETTER ",
     "DOTLESS IbtCAPITAL LIGATURE IJbtSMALL LIGATURE IJbtCAPITAL LETTER J WITH CIRCUMFLEXbtSMALL LETTE",
     "R J WITH CIRCUMFLEXbtCAPITAL LETTER K WITH CEDILLAbtSMALL LETTER K WITH CEDILLAbouRAbtCAPITAL LE",
     "TTER L WITH ACUTEbtSMALL LETTER L WITH ACUTEbtCAPITAL LETTER L WITH CEDILLAbtSMALL LETTER L WITH",
     " CEDILLAbtCAPITAL LETTER L WITH CARONbtSMALL LETTER L WITH CARONbtCAPITAL LETTER L WITH MIDDLE D",
     "OTbtSMALL LETTER L WITH MIDDLE DOTbtCAPITAL LETTER L WITH STROKEbtSMALL LETTER L WITH STROKEbtCA",
     "PITAL LETTER N WITH ACUTEbtSMALL LETTER N WITH ACUTEbtCAPITAL LETTER N WITH CEDILLAbtSMALL LETTE",
     "R N WITH CEDILLAbtCAPITAL LETTER N WITH CARONbtSMALL LETTER N WITH CARONbovPRECEDED BY APOSTROPH",
     "EbtCAPITAL LETTER ENGbtSMALL LETTER ENGbtCAPITAL LETTER O WITH MACRONbtSMALL LETTER O WITH MACRO",
     "NbtCAPITAL LETTER O WITH BREVEbtSMALL LETTER O WITH BREVEbtCAPITAL LETTER O WITH DOUBLE ACUTEbtS",
     "MALL LETTER O WITH DOUBLE ACUTEbtCAPITAL LIGATURE OEbtSMALL LIGATURE OEbtCAPITAL LETTER R WITH A",
     "CUTEbtSMALL LETTER R WITH ACUTEbtCAPITAL LETTER R WITH CEDILLAbtSMALL LETTER R WITH CEDILLAbtCAP",
     "ITAL LETTER R WITH CARONbtSMALL LETTER R WITH CARONbtCAPITAL LETTER S WITH ACUTEbtSMALL LETTER S",
     " WITH ACUTEbtCAPITAL LETTER S WITH CIRCUMFLEXbtSMALL LETTER S WITH CIRCUMFLEXbtCAPITAL LETTER S ",
     "WITH CEDILLAbtSMALL LETTER S WITH CEDILLAbtCAPITAL LETTER S WITH CARONbtSMALL LETTER S WITH CARO",
     "NbtCAPITAL LETTER T WITH CEDILLAbtSMALL LETTER T WITH CEDILLAbtCAPITAL LETTER T WITH CARONbtSMAL",
     "L LETTER T WITH CARONbtCAPITAL LETTER T WITH STROKEbtSMALL LETTER T WITH STROKEbtCAPITAL LETTER ",
     "U WITH TILDEbtSMALL LETTER U WITH TILDEbtCAPITAL LETTER U WITH MACRONbtSMALL LETTER U WITH MACRO",
     "NbtCAPITAL LETTER U WITH BREVEbtSMALL LETTER U WITH BREVEbtCAPITAL LETTER U WITH RING ABOVEbtSMA",
     "LL LETTER U WITH RING ABOVEbtCAPITAL LETTER U WITH DOUBLE ACUTEbtSMALL LETTER U WITH DOUBLE ACUT",
     "EbtCAPITAL LETTER U WITH OGONEKbtSMALL LETTER U WITH OGONEKbtCAPITAL LETTER W WITH CIRCUMFLEXbtS",
     "MALL LETTER W WITH CIRCUMFLEXbtCAPITAL LETTER Y WITH CIRCUMFLEXbtSMALL LETTER Y WITH CIRCUMFLEXb",
     "tCAPITAL LETTER Y WITH DIAERESISbovZ WITH ACUTEbtSMALL LETTER Z WITH ACUTEbtCAPITAL LETTER Z WIT",
     "H DOT ABOVEbtSMALL LETTER Z WITH DOT ABOVEbtCAPITAL LETTER Z WITH CARONbtSMALL LETTER Z WITH CAR",
     "ONbotLONG SbotB WITH STROKEbtCAPITAL LETTER B WITH HOOKbppTOPBARbtSMALL LETTER B WITH TOPBARbtCA",
     "PITAL LETTER TONE SIXbtSMALL LETTER TONE SIXbtCAPITAL LETTER OPEN ObovC WITH HOOKbtSMALL LETTER ",
     "C WITH HOOKbtCAPITAL LETTER AFRICAN DbovD WITH HOOKbppTOPBARbtSMALL LETTER D WITH TOPBARbotTURNE",
     "D DELTAbtCAPITAL LETTER REVERSED EbovSCHWAbovOPEN EbovF WITH HOOKbtSMALL LETTER F WITH HOOKbtCAP",
     "ITAL LETTER G WITH HOOKbowAMMAbtSMALL LETTER HVbtCAPITAL LETTER IOTAbow WITH STROKEbovK WITH HOO",
     "KbtSMALL LETTER K WITH HOOKbotL WITH BARbouAMBDA WITH STROKEbtCAPITAL LETTER TURNED MbovN WITH L",
     "EFT HOOKbtSMALL LETTER N WITH LONG RIGHT LEGbtCAPITAL LETTER O WITH MIDDLE TILDEbppHORNbtSMALL L",
     "ETTER O WITH HORNbtCAPITAL LETTER OIbtSMALL LETTER OIbtCAPITAL LETTER P WITH HOOKbtSMALL LETTER ",
     "P WITH HOOKbtLETTER YRbtCAPITAL LETTER TONE TWObtSMALL LETTER TONE TWObtCAPITAL LETTER ESHbtLETT",
     "ER REVERSED ESH LOOPbtSMALL LETTER T WITH PALATAL HOOKbtCAPITAL LETTER T WITH HOOKbtSMALL LETTER",
     " T WITH HOOKbtCAPITAL LETTER T WITH RETROFLEX HOOKbovU WITH HORNbtSMALL LETTER U WITH HORNbtCAPI",
     "TAL LETTER UPSILONbovV WITH HOOKbovY WITH HOOKbtSMALL LETTER Y WITH HOOKbtCAPITAL LETTER Z WITH ",
     "STROKEbtSMALL LETTER Z WITH STROKEbtCAPITAL LETTER EZHboy REVERSEDbtSMALL LETTER EZH REVERSEDbox",
     "WITH TAILbtLETTER TWO WITH STROKEbtCAPITAL LETTER TONE FIVEbtSMALL LETTER TONE FIVEbtLETTER INVE",
     "RTED GLOTTAL STOP WITH STROKEbonWYNNbonDENTAL CLICKbonLATERAL CLICKbonALVEOLAR CLICKbonRETROFLEX",
     " CLICKbtCAPITAL LETTER DZ WITH CARONbow WITH SMALL LETTER Z WITH CARONbtSMALL LETTER DZ WITH CAR",
     "ONbtCAPITAL LETTER LJbow WITH SMALL LETTER JbtSMALL LETTER LJbtCAPITAL LETTER NJbow WITH SMALL L",
     "ETTER JbtSMALL LETTER NJbtCAPITAL LETTER A WITH CARONbtSMALL LETTER A WITH CARONbtCAPITAL LETTER",
     " I WITH CARONbtSMALL LETTER I WITH CARONbtCAPITAL LETTER O WITH CARONbtSMALL LETTER O WITH CARON",
     "btCAPITAL LETTER U WITH CARONbtSMALL LETTER U WITH CARONbtCAPITAL LETTER U WITH DIAERESIS AND MA",
     "CRONbtSMALL LETTER U WITH DIAERESIS AND MACRONbtCAPITAL LETTER U WITH DIAERESIS AND ACUTEbtSMALL",
     " LETTER U WITH DIAERESIS AND ACUTEbtCAPITAL LETTER U WITH DIAERESIS AND CARONbtSMALL LETTER U WI",
     "TH DIAERESIS AND CARONbtCAPITAL LETTER U WITH DIAERESIS AND GRAVEbtSMALL LETTER U WITH DIAERESIS",
     " AND GRAVEbotTURNED EbtCAPITAL LETTER A WITH DIAERESIS AND MACRONbtSMALL LETTER A WITH DIAERESIS",
     " AND MACRONbtCAPITAL LETTER A WITH DOT ABOVE AND MACRONbtSMALL LETTER A WITH DOT ABOVE AND MACRO",
     "NbtCAPITAL LETTER AE WITH MACRONbtSMALL LETTER AE WITH MACRONbtCAPITAL LETTER G WITH STROKEbtSMA",
     "LL LETTER G WITH STROKEbtCAPITAL LETTER G WITH CARONbtSMALL LETTER G WITH CARONbtCAPITAL LETTER ",
     "K WITH CARONbtSMALL LETTER K WITH CARONbtCAPITAL LETTER O WITH OGONEKbtSMALL LETTER O WITH OGONE",
     "KbtCAPITAL LETTER O WITH OGONEK AND MACRONbtSMALL LETTER O WITH OGONEK AND MACRONbtCAPITAL LETTE",
     "R EZH WITH CARONbtSMALL LETTER EZH WITH CARONbotJ WITH CARONbtCAPITAL LETTER DZbow WITH SMALL LE",
     "TTER ZbtSMALL LETTER DZbtCAPITAL LETTER G WITH ACUTEbtSMALL LETTER G WITH ACUTEbtCAPITAL LETTER ",
     "HWAIRbovWYNNbovN WITH GRAVEbtSMALL LETTER N WITH GRAVEbtCAPITAL LETTER A WITH RING ABOVE AND ACU",
     "TEbtSMALL LETTER A WITH RING ABOVE AND ACUTEbtCAPITAL LETTER AE WITH ACUTEbtSMALL LETTER AE WITH",
     " ACUTEbtCAPITAL LETTER O WITH STROKE AND ACUTEbtSMALL LETTER O WITH STROKE AND ACUTEbtCAPITAL LE",
     "TTER A WITH DOUBLE GRAVEbtSMALL LETTER A WITH DOUBLE GRAVEbtCAPITAL LETTER A WITH INVERTED BREVE",
     "btSMALL LETTER A WITH INVERTED BREVEbtCAPITAL LETTER E WITH DOUBLE GRAVEbtSMALL LETTER E WITH DO",
     "UBLE GRAVEbtCAPITAL LETTER E WITH INVERTED BREVEbtSMALL LETTER E WITH INVERTED BREVEbtCAPITAL LE",
     "TTER I WITH DOUBLE GRAVEbtSMALL LETTER I WITH DOUBLE GRAVEbtCAPITAL LETTER I WITH INVERTED BREVE",
     "btSMALL LETTER I WITH INVERTED BREVEbtCAPITAL LETTER O WITH DOUBLE GRAVEbtSMALL LETTER O WITH DO",
     "UBLE GRAVEbtCAPITAL LETTER O WITH INVERTED BREVEbtSMALL LETTER O WITH INVERTED BREVEbtCAPITAL LE",
     "TTER R WITH DOUBLE GRAVEbtSMALL LETTER R WITH DOUBLE GRAVEbtCAPITAL LETTER R WITH INVERTED BREVE",
     "btSMALL LETTER R WITH INVERTED BREVEbtCAPITAL LETTER U WITH DOUBLE GRAVEbtSMALL LETTER U WITH DO",
     "UBLE GRAVEbtCAPITAL LETTER U WITH INVERTED BREVEbtSMALL LETTER U WITH INVERTED BREVEbtCAPITAL LE",
     "TTER S WITH COMMA BELOWbtSMALL LETTER S WITH COMMA BELOWbtCAPITAL LETTER T WITH COMMA BELOWbtSMA",
     "LL LETTER T WITH COMMA BELOWbtCAPITAL LETTER YOGHbtSMALL LETTER YOGHbtCAPITAL LETTER H WITH CARO",
     "NbtSMALL LETTER H WITH CARONbtCAPITAL LETTER N WITH LONG RIGHT LEGbtSMALL LETTER D WITH CURLbtCA",
     "PITAL LETTER OUbtSMALL LETTER OUbtCAPITAL LETTER Z WITH HOOKbtSMALL LETTER Z WITH HOOKbtCAPITAL ",
     "LETTER A WITH DOT ABOVEbtSMALL LETTER A WITH DOT ABOVEbtCAPITAL LETTER E WITH CEDILLAbtSMALL LET",
     "TER E WITH CEDILLAbtCAPITAL LETTER O WITH DIAERESIS AND MACRONbtSMALL LETTER O WITH DIAERESIS AN",
     "D MACRONbtCAPITAL LETTER O WITH TILDE AND MACRONbtSMALL LETTER O WITH TILDE AND MACRONbtCAPITAL ",
     "LETTER O WITH DOT ABOVEbtSMALL LETTER O WITH DOT ABOVEbtCAPITAL LETTER O WITH DOT ABOVE AND MACR",
     "ONbtSMALL LETTER O WITH DOT ABOVE AND MACRONbtCAPITAL LETTER Y WITH MACRONbtSMALL LETTER Y WITH ",
     "MACRONbotL WITH CURLbotN WITH CURLbotT WITH CURLbotDOTLESS JbouB DIGRAPHbotQP DIGRAPHbtCAPITAL L",
     "ETTER A WITH STROKEbovC WITH STROKEbtSMALL LETTER C WITH STROKEbtCAPITAL LETTER L WITH BARbovT W",
     "ITH DIAGONAL STROKEbtSMALL LETTER S WITH SWASH TAILbotZ WITH SWASH TAILbtCAPITAL LETTER GLOTTAL ",
     "STOPbtSMALL LETTER GLOTTAL STOPbtCAPITAL LETTER B WITH STROKEbovU BARbovTURNED VbovE WITH STROKE",
     "btSMALL LETTER E WITH STROKEbtCAPITAL LETTER J WITH STROKEbtSMALL LETTER J WITH STROKEbtCAPITAL ",
     "LETTER SMALL Q WITH HOOK TAILbtSMALL LETTER Q WITH HOOK TAILbtCAPITAL LETTER R WITH STROKEbtSMAL",
     "L LETTER R WITH STROKEbtCAPITAL LETTER Y WITH STROKEbtSMALL LETTER Y WITH STROKEbotTURNED AbotAL",
     "PHAbotTURNED ALPHAbotB WITH HOOKbotOPEN ObotC WITH CURLbotD WITH TAILbpnHOOKbotREVERSED EbotSCHW",
     "Aboy WITH HOOKbotOPEN EbotREVERSED OPEN Ebpv WITH HOOKbotCLOSED REVERSED OPEN EbotDOTLESS J WITH",
     " STROKEbotG WITH HOOKbotSCRIPT GbtLETTER SMALL CAPITAL GbtSMALL LETTER GAMMAbotRAMS HORNbotTURNE",
     "D HbotH WITH HOOKbouENG WITH HOOKbotI WITH STROKEbouOTAbtLETTER SMALL CAPITAL IbtSMALL LETTER L ",
     "WITH MIDDLE TILDEbpnBELTbpnRETROFLEX HOOKbouEZHbotTURNED Mbpo WITH LONG LEGbotM WITH HOOKbotN WI",
     "TH LEFT HOOKbpnRETROFLEX HOOKbtLETTER SMALL CAPITAL NbtSMALL LETTER BARRED ObtLETTER SMALL CAPIT",
     "AL OEbtSMALL LETTER CLOSED OMEGAbotPHIbotTURNED Rbpo WITH LONG LEGbpuHOOKbotR WITH LONG LEGbpnTA",
     "ILbpnFISHHOOKbouEVERSED R WITH FISHHOOKbtLETTER SMALL CAPITAL RbpoINVERTED RbtSMALL LETTER S WIT",
     "H HOOKbotESHbotDOTLESS J WITH STROKE AND HOOKbotSQUAT REVERSED ESHbotESH WITH CURLbotTURNED Tbou",
     " WITH RETROFLEX HOOKbotU BARbouPSILONbotV WITH HOOKbotTURNED VbpnWbpnYbtLETTER SMALL CAPITAL Ybt",
     "SMALL LETTER Z WITH RETROFLEX HOOKbpnCURLbotEZHbow WITH CURLbtLETTER GLOTTAL STOPbonPHARYNGEAL V",
     "OICED FRICATIVEbonINVERTED GLOTTAL STOPbonSTRETCHED CbonBILABIAL CLICKbonSMALL CAPITAL BbtSMALL ",
     "LETTER CLOSED OPEN EbtLETTER SMALL CAPITAL G WITH HOOKbpoHbtSMALL LETTER J WITH CROSSED-TAILbotT",
     "URNED KbtLETTER SMALL CAPITAL LbtSMALL LETTER Q WITH HOOKbtLETTER GLOTTAL STOP WITH STROKEbonREV",
     "ERSED GLOTTAL STOP WITH STROKEbtSMALL LETTER DZ DIGRAPHbouEZH DIGRAPHbouZ DIGRAPH WITH CURLbotTS",
     " DIGRAPHbouESH DIGRAPHbouC DIGRAPH WITH CURLbotFENG DIGRAPHbotLS DIGRAPHbouZ DIGRAPHbtLETTER BIL",
     "ABIAL PERCUSSIVEbopDENTAL PERCUSSIVEbtSMALL LETTER TURNED H WITH FISHHOOKbqp AND TAILbMODIFIER L",
     "ETTER SMALL Hbox WITH HOOKbowJbowRbowTURNED Rbpr WITH HOOKbowCAPITAL INVERTED RbowWbowYboqPRIMEb",
     "oqDOUBLE PRIMEboqTURNED COMMAboqAPOSTROPHEboqREVERSED COMMAborIGHT HALF RINGboqLEFT HALF RINGboq",
     "GLOTTAL STOPboqREVERSED GLOTTAL STOPboqLEFT ARROWHEADboqRIGHT ARROWHEADboqUP ARROWHEADboqDOWN AR",
     "ROWHEADboqCIRCUMFLEX ACCENTbCARONbMODIFIER LETTER VERTICAL LINEboqMACRONboqACUTE ACCENTboqGRAVE ",
     "ACCENTboqLOW VERTICAL LINEbouMACRONbouGRAVE ACCENTbouACUTE ACCENTboqTRIANGULAR COLONboqHALF TRIA",
     "NGULAR COLONboqCENTRED RIGHT HALF RINGboyLEFT HALF RINGboqUP TACKboqDOWN TACKboqPLUS SIGNboqMINU",
     "S SIGNbBREVEbDOT ABOVEbRING ABOVEbOGONEKbSMALL TILDEbDOUBLE ACUTE ACCENTbMODIFIER LETTER RHOTIC ",
     "HOOKboqCROSS ACCENTboqSMALL GAMMAbowLbowSbowXbowREVERSED GLOTTAL STOPboqEXTRA-HIGH TONE BARboqHI",
     "GH TONE BARboqMID TONE BARboqLOW TONE BARboqEXTRA-LOW TONE BARboqYIN DEPARTING TONE MARKborANG D",
     "EPARTING TONE MARKboqVOICINGboqUNASPIRATEDboqDOUBLE APOSTROPHEboqLOW DOWN ARROWHEADbouUP ARROWHE",
     "ADbouLEFT ARROWHEADbouRIGHT ARROWHEADbowNGboqMIDDLE GRAVE ACCENTboxDOUBLE GRAVE ACCENTbprACUTE A",
     "CCENTboqLOW TILDEboqRAISED COLONboqBEGIN HIGH TONEboqEND HIGH TONEboqBEGIN LOW TONEboqEND LOW TO",
     "NEboqSHELFboqOPEN SHELFboqLOW LEFT ARROWbCOMBINING GRAVE ACCENTbxACUTE ACCENTbxCIRCUMFLEX ACCENT",
     "bxTILDEbxMACRONbxOVERLINEbxBREVEbxDOT ABOVEbyIAERESISbxHOOK ABOVEbxRING ABOVEbxDOUBLE ACUTE ACCE",
     "NTbxCARONbxVERTICAL LINE ABOVEbxDOUBLE VERTICAL LINE ABOVEborGRAVE ACCENTbxCANDRABINDUbxINVERTED",
     " BREVEbxTURNED COMMA ABOVEbxCOMMA ABOVEbxREVERSED COMMA ABOVEbxCOMMA ABOVE RIGHTbxGRAVE ACCENT B",
     "ELOWbxACUTE ACCENT BELOWbxLEFT TACK BELOWbxRIGHT TACK BELOWbxLEFT ANGLE ABOVEbxHORNbxLEFT HALF R",
     "ING BELOWbxUP TACK BELOWbxDOWN TACK BELOWbxPLUS SIGN BELOWbxMINUS SIGN BELOWbxPALATALIZED HOOK B",
     "ELOWbxRETROFLEX HOOK BELOWbxDOT BELOWbyIAERESIS BELOWbxRING BELOWbxCOMMA BELOWbyEDILLAbxOGONEKbx",
     "VERTICAL LINE BELOWbxBRIDGE BELOWbxINVERTED DOUBLE ARCH BELOWbxCARON BELOWbyIRCUMFLEX ACCENT BEL",
     "OWbxBREVE BELOWbxINVERTED BREVE BELOWbxTILDE BELOWbxMACRON BELOWbxLOW LINEbxDOUBLE LOW LINEbxTIL",
     "DE OVERLAYbxSHORT STROKE OVERLAYbxLONG STROKE OVERLAYbxSHORT SOLIDUS OVERLAYbxLONG SOLIDUS OVERL",
     "AYbxRIGHT HALF RING BELOWbxINVERTED BRIDGE BELOWbxSQUARE BELOWbyEAGULL BELOWbxX ABOVEbxVERTICAL ",
     "TILDEbxDOUBLE OVERLINEbxGRAVE TONE MARKbxACUTE TONE MARKbxGREEK PERISPOMENIboqKORONISboqDIALYTIK",
     "A TONOSboqYPOGEGRAMMENIbxBRIDGE ABOVEbxEQUALS SIGN BELOWbxDOUBLE VERTICAL LINE BELOWbxLEFT ANGLE",
     " BELOWbxNOT TILDE ABOVEbxHOMOTHETIC ABOVEbxALMOST EQUAL TO ABOVEbxLEFT RIGHT ARROW BELOWbxUPWARD",
     "S ARROW BELOWbxGRAPHEME JOINERbxRIGHT ARROWHEAD ABOVEbxLEFT HALF RING ABOVEbxFERMATAbxX BELOWbxL",
     "EFT ARROWHEAD BELOWbxRIGHT ARROWHEAD BELOWbpnAND UP ARROWHEAD BELOWboqHALF RING ABOVEbxDOT ABOVE",
     " RIGHTbxASTERISK BELOWbxDOUBLE RING BELOWbxZIGZAG ABOVEbxDOUBLE BREVE BELOWbowborMACRONbox BELOW",
     "borTILDEborINVERTED BREVEborRIGHTWARDS ARROW BELOWbxLATIN SMALL LETTER AbpqEbpqIbpqObpqUbpqCbpqD",
     "bpqHbpqMbpqRbpqTbpqVbpqXbGREEK CAPITAL LETTER HETAbtSMALL LETTER HETAbtCAPITAL LETTER ARCHAIC SA",
     "MPIbtSMALL LETTER ARCHAIC SAMPIbtNUMERAL SIGNbtLOWER NUMERAL SIGNbtCAPITAL LETTER PAMPHYLIAN DIG",
     "AMMAbtSMALL LETTER PAMPHYLIAN DIGAMMAdtYPOGEGRAMMENIbtSMALL REVERSED LUNATE SIGMA SYMBOLbzDOTTED",
     " LUNATE SIGMA SYMBOLbzREVERSED DOTTED LUNATE SIGMA SYMBOLbtQUESTION MARKbtCAPITAL LETTER YOTftTO",
     "NOSbtDIALYTIKA TONOSbtCAPITAL LETTER ALPHA WITH TONOSbtANO TELEIAbtCAPITAL LETTER EPSILON WITH T",
     "ONOSbowTA WITH TONOSbovIOTA WITH TONOScovOMICRON WITH TONOScovUPSILON WITH TONOSbovOMEGA WITH TO",
     "NOSbtSMALL LETTER IOTA WITH DIALYTIKA AND TONOSbtCAPITAL LETTER ALPHAbovBETAbovGAMMAbovDELTAbovE",
     "PSILONbovZETAbovETAbovTHETAbovIOTAbovKAPPAbovLAMDAbovMUbovNUbovXIbovOMICRONbovPIbovRHOcovSIGMAbo",
     "vTAUbovUPSILONbovPHIbovCHIbovPSIbovOMEGAbovIOTA WITH DIALYTIKAbovUPSILON WITH DIALYTIKAbtSMALL L",
     "ETTER ALPHA WITH TONOSbotEPSILON WITH TONOSbouTA WITH TONOSbotIOTA WITH TONOSbotUPSILON WITH DIA",
     "LYTIKA AND TONOSbotALPHAbotBETAbotGAMMAbotDELTAbotEPSILONbotZETAbotETAbotTHETAbotIOTAbotKAPPAbot",
     "LAMDAbotMUbotNUbotXIbotOMICRONbotPIbotRHObotFINAL SIGMAbotSIGMAbotTAUbotUPSILONbotPHIbotCHIbotPS",
     "IbotOMEGAbotIOTA WITH DIALYTIKAbotUPSILON WITH DIALYTIKAbotOMICRON WITH TONOSbotUPSILON WITH TON",
     "OSbotOMEGA WITH TONOSbtCAPITAL KAI SYMBOLbtBETA SYMBOLbtTHETA SYMBOLbtUPSILON WITH HOOK SYMBOLbo",
     "tACUTE AND HOOK SYMBOLbotDIAERESIS AND HOOK SYMBOLbtPHI SYMBOLbuI SYMBOLbtKAI SYMBOLbtLETTER ARC",
     "HAIC KOPPAbtSMALL LETTER ARCHAIC KOPPAbtLETTER STIGMAbtSMALL LETTER STIGMAbtLETTER DIGAMMAbtSMAL",
     "L LETTER DIGAMMAbtLETTER KOPPAbtSMALL LETTER KOPPAbtLETTER SAMPIbtSMALL LETTER SAMPIbCOPTIC CAPI",
     "TAL LETTER SHEIbuSMALL LETTER SHEIbuCAPITAL LETTER FEIbuSMALL LETTER FEIbuCAPITAL LETTER KHEIbuS",
     "MALL LETTER KHEIbuCAPITAL LETTER HORIbuSMALL LETTER HORIbuCAPITAL LETTER GANGIAbuSMALL LETTER GA",
     "NGIAbuCAPITAL LETTER SHIMAbuSMALL LETTER SHIMAbuCAPITAL LETTER DEIbuSMALL LETTER DEIbGREEK KAPPA",
     " SYMBOLbtRHO SYMBOLbtLUNATE SIGMA SYMBOLbuETTER YOTbtCAPITAL THETA SYMBOLbtLUNATE EPSILON SYMBOL",
     "btREVERSED LUNATE EPSILON SYMBOLbtCAPITAL LETTER SHObtSMALL LETTER SHObtCAPITAL LUNATE SIGMA SYM",
     "BOLbopETTER SANbtSMALL LETTER SANbtRHO WITH STROKE SYMBOLbtCAPITAL REVERSED LUNATE SIGMA SYMBOLb",
     "ooDOTTED LUNATE SIGMA SYMBOLbooREVERSED DOTTED LUNATE SIGMA SYMBOLbCYRILLIC CAPITAL LETTER IE WI",
     "TH GRAVEbozOboyDJEboyGJEboyUKRAINIAN IEboyDZEboyBYELORUSSIAN-UKRAINIAN IboyYIboyJEboyLJEboyNJEbo",
     "yTSHEboyKJEboyI WITH GRAVEboySHORT UboyDZHEboyAboyBEboyVEboyGHEboyDEboyIEboyZHEbozEboyIboySHORT ",
     "IboyKAboyELbozMbozNboyOboyPEboyERbozSboyTEboyUboyEFboyHAboyTSEboyCHEboySHAbpnCHAboyHARD SIGNboyY",
     "ERUboySOFT SIGNboyEboyYUbozAbwSMALL LETTER AbowBEbowVEbowGHEbowDEbowIEbowZHEboxEbowIbowSHORT Ibo",
     "wKAbowELboxMboxNbowObowPEbowERboxSbowTEbowUbowEFbowHAbowTSEbowCHEbowSHAboyCHAbowHARD SIGNbowYERU",
     "bowSOFT SIGNbowEbowYUboxAbowIE WITH GRAVEboxObowDJEbowGJEbowUKRAINIAN IEbowDZEbowBYELORUSSIAN-UK",
     "RAINIAN IbowYIbowJEbowLJEbowNJEbowTSHEbowKJEbowI WITH GRAVEbowSHORT UbowDZHEbwCAPITAL LETTER OME",
     "GAbwSMALL LETTER OMEGAbwCAPITAL LETTER YATbwSMALL LETTER YATbwCAPITAL LETTER IOTIFIED EbwSMALL L",
     "ETTER IOTIFIED EbwCAPITAL LETTER LITTLE YUSbwSMALL LETTER LITTLE YUSbwCAPITAL LETTER IOTIFIED LI",
     "TTLE YUSbwSMALL LETTER IOTIFIED LITTLE YUSbwCAPITAL LETTER BIG YUSbwSMALL LETTER BIG YUSbwCAPITA",
     "L LETTER IOTIFIED BIG YUSbwSMALL LETTER IOTIFIED BIG YUSbwCAPITAL LETTER KSIbwSMALL LETTER KSIbw",
     "CAPITAL LETTER PSIbwSMALL LETTER PSIbwCAPITAL LETTER FITAbwSMALL LETTER FITAbwCAPITAL LETTER IZH",
     "ITSAbwSMALL LETTER IZHITSAbwCAPITAL LETTER IZHITSA WITH DOUBLE GRAVE ACCENTbwSMALL LETTER IZHITS",
     "A WITH DOUBLE GRAVE ACCENTbwCAPITAL LETTER UKbwSMALL LETTER UKbwCAPITAL LETTER ROUND OMEGAbwSMAL",
     "L LETTER ROUND OMEGAbwCAPITAL LETTER OMEGA WITH TITLObwSMALL LETTER OMEGA WITH TITLObwCAPITAL LE",
     "TTER OTbwSMALL LETTER OTbwCAPITAL LETTER KOPPAbwSMALL LETTER KOPPAbwTHOUSANDS SIGNboOMBINING CYR",
     "ILLIC TITLObotPALATALIZATIONbotDASIA PNEUMATAbotPSILI PNEUMATAbouOKRYTIEbotHUNDRED THOUSANDS SIG",
     "NbotMILLIONS SIGNboYRILLIC CAPITAL LETTER SHORT I WITH TAILbwSMALL LETTER SHORT I WITH TAILbwCAP",
     "ITAL LETTER SEMISOFT SIGNbwSMALL LETTER SEMISOFT SIGNbwCAPITAL LETTER ER WITH TICKbwSMALL LETTER",
     " ER WITH TICKbwCAPITAL LETTER GHE WITH UPTURNbwSMALL LETTER GHE WITH UPTURNbwCAPITAL LETTER GHE ",
     "WITH STROKEbwSMALL LETTER GHE WITH STROKEbwCAPITAL LETTER GHE WITH MIDDLE HOOKbwSMALL LETTER GHE",
     " WITH MIDDLE HOOKbwCAPITAL LETTER ZHE WITH DESCENDERbwSMALL LETTER ZHE WITH DESCENDERbwCAPITAL L",
     "ETTER ZE WITH DESCENDERbwSMALL LETTER ZE WITH DESCENDERbwCAPITAL LETTER KA WITH DESCENDERbwSMALL",
     " LETTER KA WITH DESCENDERbwCAPITAL LETTER KA WITH VERTICAL STROKEbwSMALL LETTER KA WITH VERTICAL",
     " STROKEbwCAPITAL LETTER KA WITH STROKEbwSMALL LETTER KA WITH STROKEbwCAPITAL LETTER BASHKIR KAbw",
     "SMALL LETTER BASHKIR KAbwCAPITAL LETTER EN WITH DESCENDERbwSMALL LETTER EN WITH DESCENDERbwCAPIT",
     "AL LIGATURE EN GHEbwSMALL LIGATURE EN GHEbwCAPITAL LETTER PE WITH MIDDLE HOOKbwSMALL LETTER PE W",
     "ITH MIDDLE HOOKbwCAPITAL LETTER ABKHASIAN HAbwSMALL LETTER ABKHASIAN HAbwCAPITAL LETTER ES WITH ",
     "DESCENDERbwSMALL LETTER ES WITH DESCENDERbwCAPITAL LETTER TE WITH DESCENDERbwSMALL LETTER TE WIT",
     "H DESCENDERbwCAPITAL LETTER STRAIGHT UbwSMALL LETTER STRAIGHT UbwCAPITAL LETTER STRAIGHT U WITH ",
     "STROKEbwSMALL LETTER STRAIGHT U WITH STROKEbwCAPITAL LETTER HA WITH DESCENDERbwSMALL LETTER HA W",
     "ITH DESCENDERbwCAPITAL LIGATURE TE TSEbwSMALL LIGATURE TE TSEbwCAPITAL LETTER CHE WITH DESCENDER",
     "bwSMALL LETTER CHE WITH DESCENDERbwCAPITAL LETTER CHE WITH VERTICAL STROKEbwSMALL LETTER CHE WIT",
     "H VERTICAL STROKEbwCAPITAL LETTER SHHAbwSMALL LETTER SHHAbwCAPITAL LETTER ABKHASIAN CHEbwSMALL L",
     "ETTER ABKHASIAN CHEbwCAPITAL LETTER ABKHASIAN CHE WITH DESCENDERbwSMALL LETTER ABKHASIAN CHE WIT",
     "H DESCENDERbwLETTER PALOCHKAbwCAPITAL LETTER ZHE WITH BREVEbwSMALL LETTER ZHE WITH BREVEbwCAPITA",
     "L LETTER KA WITH HOOKbwSMALL LETTER KA WITH HOOKbwCAPITAL LETTER EL WITH TAILbwSMALL LETTER EL W",
     "ITH TAILbwCAPITAL LETTER EN WITH HOOKbwSMALL LETTER EN WITH HOOKbwCAPITAL LETTER EN WITH TAILbwS",
     "MALL LETTER EN WITH TAILbwCAPITAL LETTER KHAKASSIAN CHEbwSMALL LETTER KHAKASSIAN CHEbwCAPITAL LE",
     "TTER EM WITH TAILbwSMALL LETTER EM WITH TAILbowPALOCHKAbwCAPITAL LETTER A WITH BREVEbwSMALL LETT",
     "ER A WITH BREVEbwCAPITAL LETTER A WITH DIAERESISbwSMALL LETTER A WITH DIAERESISbwCAPITAL LIGATUR",
     "E A IEbwSMALL LIGATURE A IEbwCAPITAL LETTER IE WITH BREVEbwSMALL LETTER IE WITH BREVEbwCAPITAL L",
     "ETTER SCHWAbwSMALL LETTER SCHWAbwCAPITAL LETTER SCHWA WITH DIAERESISbwSMALL LETTER SCHWA WITH DI",
     "AERESISbwCAPITAL LETTER ZHE WITH DIAERESISbwSMALL LETTER ZHE WITH DIAERESISbwCAPITAL LETTER ZE W",
     "ITH DIAERESISbwSMALL LETTER ZE WITH DIAERESISbwCAPITAL LETTER ABKHASIAN DZEbwSMALL LETTER ABKHAS",
     "IAN DZEbwCAPITAL LETTER I WITH MACRONbwSMALL LETTER I WITH MACRONbwCAPITAL LETTER I WITH DIAERES",
     "ISbwSMALL LETTER I WITH DIAERESISbwCAPITAL LETTER O WITH DIAERESISbwSMALL LETTER O WITH DIAERESI",
     "SbwCAPITAL LETTER BARRED ObwSMALL LETTER BARRED ObwCAPITAL LETTER BARRED O WITH DIAERESISbwSMALL",
     " LETTER BARRED O WITH DIAERESISbwCAPITAL LETTER E WITH DIAERESISbwSMALL LETTER E WITH DIAERESISb",
     "wCAPITAL LETTER U WITH MACRONbwSMALL LETTER U WITH MACRONbwCAPITAL LETTER U WITH DIAERESISbwSMAL",
     "L LETTER U WITH DIAERESISbwCAPITAL LETTER U WITH DOUBLE ACUTEbwSMALL LETTER U WITH DOUBLE ACUTEb",
     "wCAPITAL LETTER CHE WITH DIAERESISbwSMALL LETTER CHE WITH DIAERESISbwCAPITAL LETTER GHE WITH DES",
     "CENDERbwSMALL LETTER GHE WITH DESCENDERbwCAPITAL LETTER YERU WITH DIAERESISbwSMALL LETTER YERU W",
     "ITH DIAERESISbwCAPITAL LETTER GHE WITH STROKE AND HOOKbwSMALL LETTER GHE WITH STROKE AND HOOKbwC",
     "APITAL LETTER HA WITH HOOKbwSMALL LETTER HA WITH HOOKbwCAPITAL LETTER HA WITH STROKEbwSMALL LETT",
     "ER HA WITH STROKEbwCAPITAL LETTER KOMI DEbwSMALL LETTER KOMI DEbwCAPITAL LETTER KOMI DJEbwSMALL ",
     "LETTER KOMI DJEbwCAPITAL LETTER KOMI ZJEbwSMALL LETTER KOMI ZJEbwCAPITAL LETTER KOMI DZJEbwSMALL",
     " LETTER KOMI DZJEbwCAPITAL LETTER KOMI LJEbwSMALL LETTER KOMI LJEbwCAPITAL LETTER KOMI NJEbwSMAL",
     "L LETTER KOMI NJEbwCAPITAL LETTER KOMI SJEbwSMALL LETTER KOMI SJEbwCAPITAL LETTER KOMI TJEbwSMAL",
     "L LETTER KOMI TJEbwCAPITAL LETTER REVERSED ZEbwSMALL LETTER REVERSED ZEbwCAPITAL LETTER EL WITH ",
     "HOOKbwSMALL LETTER EL WITH HOOKbwCAPITAL LETTER LHAbwSMALL LETTER LHAbwCAPITAL LETTER RHAbwSMALL",
     " LETTER RHAbwCAPITAL LETTER YAEbwSMALL LETTER YAEbwCAPITAL LETTER QAbwSMALL LETTER QAbwCAPITAL L",
     "ETTER WEbwSMALL LETTER WEbwCAPITAL LETTER ALEUT KAbwSMALL LETTER ALEUT KAbwCAPITAL LETTER EL WIT",
     "H MIDDLE HOOKbwSMALL LETTER EL WITH MIDDLE HOOKbwCAPITAL LETTER EN WITH MIDDLE HOOKbwSMALL LETTE",
     "R EN WITH MIDDLE HOOKbwCAPITAL LETTER PE WITH DESCENDERbwSMALL LETTER PE WITH DESCENDERbwCAPITAL",
     " LETTER SHHA WITH DESCENDERbwSMALL LETTER SHHA WITH DESCENDERbwCAPITAL LETTER EN WITH LEFT HOOKb",
     "wSMALL LETTER EN WITH LEFT HOOKbwCAPITAL LETTER DZZHEbwSMALL LETTER DZZHEbwCAPITAL LETTER DCHEbw",
     "SMALL LETTER DCHEbwCAPITAL LETTER EL WITH DESCENDERbwSMALL LETTER EL WITH DESCENDERcARMENIAN CAP",
     "ITAL LETTER AYBboyBENboyGIMboyDAboyECHboyZAboyEHbozTboyTOboyZHEboyINIboyLIWNboyXEHboyCAboyKENboy",
     "HOboyJAboyGHADboyCHEHboyMENboyYIboyNOWboySHAboyVOboyCHAboyPEHboyJHEHboyRAboySEHboyVEWboyTIWNboyR",
     "EHboyCOboyYIWNboyPIWRboyKEHboyOHboyFEHdwMODIFIER LETTER LEFT HALF RINGbwAPOSTROPHEbwEMPHASIS MAR",
     "KbxXCLAMATION MARKbwCOMMAbwQUESTION MARKbwABBREVIATION MARKbwSMALL LETTER TURNED AYBbowAYBbowBEN",
     "bowGIMbowDAbowECHbowZAbowEHboxTbowTObowZHEbowINIbowLIWNbowXEHbowCAbowKENbowHObowJAbowGHADbowCHEH",
     "bowMENbowYIbowNOWbowSHAbowVObowCHAbowPEHbowJHEHbowRAbowSEHbowVEWbowTIWNbowREHbowCObowYIWNbowPIWR",
     "bowKEHbowOHbowFEHboqIGATURE ECH YIWNboqETTER YI WITH STROKEbwFULL STOPbwHYPHENdRIGHT-FACING ARME",
     "NIAN ETERNITY SIGNbLEFT-FACING ARMENIAN ETERNITY SIGNbARMENIAN DRAM SIGNcHEBREW ACCENT ETNAHTAbo",
     "oSEGOLbopHALSHELETbooZAQEF QATANbouGADOLbooTIPEHAbooREVIAbooZARQAbooPASHTAbooYETIVbooTEVIRbooGER",
     "ESHbou MUQDAMborSHAYIMbooQARNEY PARAbooTELISHA GEDOLAbooPAZERbooATNAH HAFUKHbooMUNAHbopAHAPAKHbo",
     "pERKHAbou KEFULAbooDARGAbooQADMAbooTELISHA QETANAbooYERAH BEN YOMObooOLEbooILUYbooDEHIbooZINORbu",
     "MARK MASORA CIRCLEbuPOINT SHEVAbonHATAF SEGOLbotPATAHbotQAMATSbooIRIQbonTSEREbonSEGOLbonPATAHbon",
     "QAMATSbonHOLAMbos HASER FOR VAVbonQUBUTSbonDAGESH OR MAPIQbonMETEGbvUNCTUATION MAQAFbvOINT RAFEb",
     "vUNCTUATION PASEQbvOINT SHIN DOTbooIN DOTbvUNCTUATION SOF PASUQbuMARK UPPER DOTbzLOWER DOTbuPUNC",
     "TUATION NUN HAFUKHAbvOINT QAMATS QATANjuLETTER ALEFbooBETbooGIMELbooDALETbooHEbooVAVbooZAYINbooH",
     "ETbooTETbooYODbooFINAL KAFbooKAFbooLAMEDbooFINAL MEMbooMEMbooFINAL NUNbooNUNbooSAMEKHbooAYINbooF",
     "INAL PEbooPEbooFINAL TSADIbooTSADIbooQOFbooRESHbooSHINbooTAVfuYOD TRIANGLEbuLIGATURE YIDDISH DOU",
     "BLE VAVboyVAV YODboyDOUBLE YODbuPUNCTUATION GERESHbowSHAYIMmARABIC NUMBER SIGNbuSIGN SANAHbuFOOT",
     "NOTE MARKERbuSIGN SAFHAbooMVATbuNUMBER MARK ABOVEbt-INDIC CUBE ROOTbonFOURTH ROOTbt RAYbt-INDIC ",
     "PER MILLE SIGNborTEN THOUSAND SIGNboFGHANI SIGNboRABIC COMMAbuDATE SEPARATORbuPOETIC VERSE SIGNb",
     "uSIGN MISRAbzSALLALLAHOU ALAYHE WASSALLAMbzALAYHE ASSALLAMbzRAHMATULLAH ALAYHEbooDI ALLAHOU ANHU",
     "bzTAKHALLUSbvMALL HIGH TAHbosLIGATURE ALEF WITH LAM WITH YEHbosZAINbonFATHAbonDAMMAbonKASRAbvEMI",
     "COLONbuLETTER MARKbuEND OF TEXT MARKbuTRIPLE DOT PUNCTUATION MARKbuQUESTION MARKbuLETTER KASHMIR",
     "I YEHbooHAMZAbooALEF WITH MADDA ABOVEboyHAMZA ABOVEbooWAW WITH HAMZA ABOVEbooALEF WITH HAMZA BEL",
     "OWbooYEH WITH HAMZA ABOVEbooALEFbooBEHbooTEH MARBUTAborbopHEHbooJEEMbooHAHbooKHAHbooDALbooTHALbo",
     "oREHbooZAINbooSEENbopHEENbopADbooDADbooTAHbooZAHbooAINbooGHAINbooKEHEH WITH TWO DOTS ABOVEbpnHRE",
     "E DOTS BELOWbooFARSI YEH WITH INVERTED VbpqTWO DOTS ABOVEbprHREE DOTS ABOVEbuTATWEELbuLETTER FEH",
     "booQAFbooKAFbooLAMbooMEEMbooNOONbooHEHbooWAWbooALEF MAKSURAbooYEHbuFATHATANbuDAMMATANbuKASRATANb",
     "uFATHAbuDAMMAbuKASRAbuSHADDAbvUKUNbuMADDAH ABOVEbuHAMZA ABOVEbonBELOWbuSUBSCRIPT ALEFbuINVERTED ",
     "DAMMAbuMARK NOON GHUNNAbuZWARAKAYbuVOWEL SIGN SMALL V ABOVEbosINVERTED SMALL V ABOVEbosDOT BELOW",
     "buREVERSED DAMMAbuFATHA WITH TWO DOTSbuWAVY HAMZA BELOWbt-INDIC DIGIT ZERObotONEbotTWObouHREEbot",
     "FOURbouIVEbotSIXbouEVENbotEIGHTbotNINEbt PERCENT SIGNbuDECIMAL SEPARATORbuTHOUSANDS SEPARATORbuF",
     "IVE POINTED STARbuLETTER DOTLESS BEHbowQAFbooSUPERSCRIPT ALEFbooALEF WASLAbouITH WAVY HAMZA ABOV",
     "EbpwBELOWbooHIGH HAMZAboy ALEFbozWAWbooU WITH HAMZA ABOVEbooHIGH HAMZA YEHbooTTEHbosEHbooBEEHboo",
     "TEH WITH RINGboxTHREE DOTS ABOVE DOWNWARDSbooPEHbooTEHEHbooBEHEHbooHAH WITH HAMZA ABOVEboxTWO DO",
     "TS VERTICAL ABOVEbooNYEHbooDYEHbooHAH WITH THREE DOTS ABOVEbooTCHEHbotEHbooDDALbopAL WITH RINGbo",
     "xDOT BELOWbpt AND SMALL TAHboqHALbopDAHALbopULbopAL WITH THREE DOTS ABOVE DOWNWARDSboxFOUR DOTS ",
     "ABOVEbooRREHbopEH WITH SMALL VboxRINGboxDOT BELOWboxSMALL V BELOWboxDOT BELOW AND DOT ABOVEboxTW",
     "O DOTS ABOVEbooJEHbooREH WITH FOUR DOTS ABOVEbooSEEN WITH DOT BELOW AND DOT ABOVEboyTHREE DOTS B",
     "ELOWbqo AND THREE DOTS ABOVEbopAD WITH TWO DOTS BELOWboyHREE DOTS ABOVEbooTAH WITH THREE DOTS AB",
     "OVEbooAIN WITH THREE DOTS ABOVEbooDOTLESS FEHbooFEH WITH DOT MOVED BELOWbpoBELOWbooVEHbooFEH WIT",
     "H THREE DOTS BELOWbooPEHEHbooQAF WITH DOT ABOVEboxTHREE DOTS ABOVEbooKEHEHbooSWASH KAFbooKAF WIT"]

def characterNameRecordsPart2 : String :=
  String.join
    ["H RINGboxDOT ABOVEbooNGbooKAF WITH THREE DOTS BELOWbooGAFbor WITH RINGbooNGOEHbooGAF WITH TWO DO",
     "TS BELOWbopUEHbopAF WITH THREE DOTS ABOVEbooLAM WITH SMALL VboxDOT ABOVEboxTHREE DOTS ABOVEbpvBE",
     "LOWbooNOON WITH DOT BELOWbotGHUNNAbooRNOONbooNOON WITH RINGboyTHREE DOTS ABOVEbooHEH DOACHASHMEE",
     "booTCHEH WITH DOT ABOVEbooHEH WITH YEH ABOVEbosGOALbow WITH HAMZA ABOVEbooTEH MARBUTA GOALbooWAW",
     " WITH RINGbooKIRGHIZ OEbooOEbooUbooYUbooKIRGHIZ YUbooWAW WITH TWO DOTS ABOVEbooVEbooFARSI YEHboo",
     "YEH WITH TAILboxSMALL VbooWAW WITH DOT ABOVEbooEbooYEH WITH THREE DOTS BELOWbosBARREEboy WITH HA",
     "MZA ABOVEbuFULL STOPbuLETTER AEbuSMALL HIGH LIGATURE SAD WITH LAM WITH ALEF MAKSURAbpoQAF WITH L",
     "AM WITH ALEF MAKSURAbosMEEM INITIAL FORMbosLAM ALEFbosJEEMbosTHREE DOTSbosSEENbuEND OF AYAHbuSTA",
     "RT OF RUB EL HIZBbvMALL HIGH ROUNDED ZERObosUPRIGHT RECTANGULAR ZERObosDOTLESS HEAD OF KHAHbosME",
     "EM ISOLATED FORMbonLOW SEENbonHIGH MADDAbonWAWbonYEHbonHIGH YEHbosNOONbuPLACE OF SAJDAHbuEMPTY C",
     "ENTRE LOW STOPbouHIGH STOPbuROUNDED HIGH STOP WITH FILLED CENTREbuSMALL LOW MEEMbuLETTER DAL WIT",
     "H INVERTED VbooREH WITH INVERTED VbEXTENDED ARABIC-INDIC DIGIT ZERObppONEbppTWObpqHREEbppFOURbpq",
     "IVEbppSIXbpqEVENbppEIGHTbppNINEbARABIC LETTER SHEEN WITH DOT BELOWbooDAD WITH DOT BELOWbooGHAIN ",
     "WITH DOT BELOWbuSIGN SINDHI AMPERSANDbotPOSTPOSITION MENbuLETTER HEH WITH INVERTED VbSYRIAC END ",
     "OF PARAGRAPHbuSUPRALINEAR FULL STOPbwBLINEAR FULL STOPbwPRALINEAR COLONbwBLINEAR COLONbuHORIZONT",
     "AL COLONbuCOLON SKEWED LEFTbouRIGHTbuSUPRALINEAR COLON SKEWED LEFTbwBLINEAR COLON SKEWED RIGHTbu",
     "CONTRACTIONbuHARKLEAN OBELUSboqMETOBELUSboqASTERISCUScuABBREVIATION MARKbuLETTER ALAPHbooSUPERSC",
     "RIPT ALAPHbooBETHbooGAMALbot GARSHUNIbooDALATHbopOTLESS DALATH RISHbooHEbooWAWbooZAINbooHETHbooT",
     "ETHbos GARSHUNIbooYUDHbos HEbooKAPHbooLAMADHbooMIMbooNUNbooSEMKATHbooFINAL SEMKATHbooEbooPEbooRE",
     "VERSED PEbooSADHEbooQAPHbooRISHbooSHINbooTAWbooPERSIAN BHETHbowGHAMALbowDHALATHbuPTHAHA ABOVEboo",
     "BELOWbooDOTTEDbuZQAPHA ABOVEbooBELOWbooDOTTEDbuRBASA ABOVEbonBELOWbuDOTTED ZLAMA HORIZONTALbouAN",
     "GULARbuHBASA ABOVEbonBELOWbz-ESASA DOTTEDbuESASA ABOVEbonBELOWbuRWAHAbuFEMININE DOTbuQUSHSHAYAbu",
     "RUKKAKHAbuTWO VERTICAL DOTS ABOVEbozBELOWbvHREE DOTS ABOVEbosBELOWbuOBLIQUE LINE ABOVEbouBELOWbu",
     "MUSICbuBARREKHduLETTER SOGDIAN ZHAINbowKHAPHbowFEbARABIC LETTER BEH WITH THREE DOTS HORIZONTALLY",
     " BELOWboxDOT BELOW AND THREE DOTS ABOVEboxTHREE DOTS POINTING UPWARDS BELOWbrr AND TWO DOTS ABOV",
     "EboyWO DOTS BELOW AND DOT ABOVEboxINVERTED SMALL V BELOWboxSMALL VbooHAH WITH TWO DOTS ABOVEboyH",
     "REE DOTS POINTING UPWARDS BELOWbooDAL WITH TWO DOTS VERTICALLY BELOW AND SMALL TAHboxINVERTED SM",
     "ALL V BELOWbooREH WITH STROKEbooSEEN WITH FOUR DOTS ABOVEbooAIN WITH TWO DOTS ABOVEboyHREE DOTS ",
     "POINTING DOWNWARDS ABOVEboyWO DOTS VERTICALLY ABOVEbooFEH WITH TWO DOTS BELOWboyHREE DOTS POINTI",
     "NG UPWARDS BELOWbooKEHEH WITH DOT ABOVEbozTHREE DOTS ABOVEbpxPOINTING UPWARDS BELOWbooMEEM WITH ",
     "DOT ABOVEbppBELOWbooNOON WITH TWO DOTS BELOWboySMALL TAHbprVbooLAM WITH BARbooREH WITH TWO DOTS ",
     "VERTICALLY ABOVEboxHAMZA ABOVEbooSEEN WITH TWO DOTS VERTICALLY ABOVEbooHAH WITH SMALL ARABIC LET",
     "TER TAH BELOWbqvAND TWO DOTSbooSEEN WITH SMALL ARABIC LETTER TAH AND TWO DOTSbooREH WITH SMALL A",
     "RABIC LETTER TAH AND TWO DOTSbooHAH WITH SMALL ARABIC LETTER TAH ABOVEbooALEF WITH EXTENDED ARAB",
     "IC-INDIC DIGIT TWO ABOVEbroHREE ABOVEbooFARSI YEH WITH EXTENDED ARABIC-INDIC DIGIT TWO ABOVEbrtH",
     "REE ABOVEbrsFOUR BELOWbooWAW WITH EXTENDED ARABIC-INDIC DIGIT TWO ABOVEbrnHREE ABOVEbooYEH BARRE",
     "E WITH EXTENDED ARABIC-INDIC DIGIT TWO ABOVEbruHREE ABOVEbooHAH WITH EXTENDED ARABIC-INDIC DIGIT",
     " FOUR BELOWbooSEEN WITH EXTENDED ARABIC-INDIC DIGIT FOUR ABOVEboyINVERTED VbooKAF WITH TWO DOTS ",
     "ABOVEbTHAANA LETTER HAAbooSHAVIYANIbooNOONUbooRAAbooBAAbooLHAVIYANIbooKAAFUbooALIFUbooVAAVUbooME",
     "EMUbooFAAFUbooDHAALUbooTHAAbooLAAMUbooGAAFUbopNAVIYANIbooSEENUbooDAVIYANIbooZAVIYANIbooTAVIYANIb",
     "ooYAAbooPAVIYANIbooJAVIYANIbooCHAVIYANIbooTTAAbooHHAAbooKHAAbooTHAALUbooZAAbooSHEENUbopAADHUbooD",
     "AADHUbooTObooZObooAINUbooGHAINUbooQAAFUbooWAAVUbuABAFILIbvABAAFILIbuIBIFILIbuEEBEEFILIbuUBUFILIb",
     "uOOBOOFILIbuEBEFILIbvYBEYFILIbuOBOFILIbvABOAFILIbuSUKUNbuLETTER NAAbcNKO DIGIT ZERObxONEbxTWObyH",
     "REEbxFOURbyIVEbxSIXbyEVENbxEIGHTbxNINEbrLETTER AbyEEbyIbyEbyUbyOObzbyDAGBASINNAbyNbyBAbyPAbyTAby",
     "JAbyCHAbyDAbyRAbzRAbySAbyGBAbyFAbyKAbyLAbyNA WOLOSObyMAbyNYAbzAbyHAbyWAbyYAbyNYA WOLOSObyJONA JA",
     "boqCHAboqRAbrCOMBINING SHORT HIGH TONEbouLOW TONEbouRISING TONEbooLONG DESCENDING TONEbotHIGH TO",
     "NEbotLOW TONEbotRISING TONEbooNASALIZATION MARKbooDOUBLE DOT ABOVEbrHIGH TONE APOSTROPHEbrLOW TO",
     "NE APOSTROPHEbrSYMBOL OO DENNENbyGBAKURUNENbrCOMMAbrEXCLAMATION MARKbrLAJANYALANdrDANTAYALANbsOR",
     "OME SIGNbrTAMAN SIGNbSAMARITAN LETTER ALAFborBITborGAMANborDALATborIYborBAAborZENborITborTITborY",
     "UTborKAAFborLABATborMIMborNUNborSINGAATborINborFIborTSAADIYborQUFborRISHborSHANborTAAFbxMARK INb",
     "or-ALAFbopOCCLUSIONbopDAGESHbyODIFIER LETTER EPENTHETIC YUTbyARK EPENTHETIC YUTbxVOWEL SIGN LONG",
     " EbovEbovOVERLONG AAbovLONG AAbovAAbovOVERLONG AbovLONG AbovAbxMODIFIER LETTER SHORT AbxVOWEL SI",
     "GN SHORT AbovLONG UbovUbxMODIFIER LETTER IbxVOWEL SIGN LONG IbovIbovObovSUKUNbxMARK NEQUDAAdxPUN",
     "CTUATION NEQUDAAbowAFSAAQboxNGEDbowBAUbowATMAAUbowSHIYYAALAAbxABBREVIATION MARKbxPUNCTUATION MEL",
     "ODIC QITSAbowZIQAAbowQITSAbowZAEFbowTURUbowARKAANUbowSOF MASHFAATbowANNAAUcMANDAIC LETTER HALQAb",
     "opABboqGboqDboqHbopUSHENNAbopAZbopITbopATTboqKSAborboqLboqMboqNboqSbopINbopAPboqSZboqQboqRboqSHb",
     "oqTbopDUSHENNAbopKADbopAINbvAFFRICATION MARKbvVOCALIZATION MARKbvGEMINATION MARKdvPUNCTUATIONcSY",
     "RIAC LETTER MALAYALAM NGAboyJAboyNYAboyTTAboyNNAbpnNAboyBHAboyRAboyLLAbpnLAboySSAgARABIC LETTER ",
     "ALEF WITH ATTACHED FATHAbpuTOP RIGHT FATHAboyRIGHT MIDDLE STROKEboyLEFT MIDDLE STROKEboyATTACHED",
     " KASRAbpuBOTTOM RIGHT KASRAbpuROUND DOT ABOVEbpvIGHT ROUND DOTbpuLEFT ROUND DOTbpuROUND DOT BELO",
     "WboyDOT ABOVEboyATTACHED TOP RIGHT FATHA AND DOT ABOVEboyRIGHT MIDDLE STROKE AND DOT ABOVEboyATT",
     "ACHED BOTTOM RIGHT KASRA AND DOT ABOVEbpuTOP RIGHT FATHA AND LEFT RINGboyRIGHT MIDDLE STROKE AND",
     " LEFT RINGboyATTACHED BOTTOM RIGHT KASRA AND LEFT RINGbpuRIGHT HAMZAbpuLEFT HAMZAbuTATWEEL WITH ",
     "OVERSTRUCK HAMZAbpsWAWbouTWO DOTS BELOWbuLETTER THIN YEHbuBASELINE ROUND DOTbuRAISED ROUND DOTbu",
     "LETTER NOON WITH INVERTED SMALL VbooHAH WITH INVERTED SMALL V BELOWbooTAH WITH DOT BELOWboxTHREE",
     " DOTS BELOWbooKEHEH WITH TWO DOTS VERTICALLY BELOWbuVERTICAL TAILcuPOUND MARK ABOVEbvIASTRE MARK",
     " ABOVEhuSMALL HIGH WORD AL-JUZbonLOW WORD ISHMAAMboxMAALAbowTASHEELbuMADDA WAAJIBbuSUPERSCRIPT A",
     "LEF MOKHASSASbuDOUBLED MADDAbuHALF MADDA OVER MADDAbuLETTER BEH WITH SMALL V BELOWboxHAMZA ABOVE",
     "booJEEM WITH TWO DOTS ABOVEbooTAH WITH TWO DOTS ABOVEbooFEH WITH DOT BELOW AND THREE DOTS ABOVEb",
     "ooQAF WITH DOT BELOWbooLAM WITH DOUBLE BARbooMEEM WITH THREE DOTS ABOVEbooYEH WITH TWO DOTS BELO",
     "W AND HAMZA ABOVEbqqDOT ABOVEbooREH WITH LOOPbooWAW WITH DOT WITHINbooROHINGYA YEHbooLOW ALEFboo",
     "DAL WITH THREE DOTS BELOWbooSAD WITH THREE DOTS BELOWbooGAF WITH INVERTED STROKEbooSTRAIGHT WAWb",
     "ooZAIN WITH INVERTED V ABOVEbooAIN WITH THREE DOTS BELOWbooKAF WITH DOT BELOWbooQAF WITH DOT BEL",
     "OW AND NO DOTS ABOVEbooBEH WITH SMALL MEEM ABOVEbooPEH WITH SMALL MEEM ABOVEbooTEH WITH SMALL TE",
     "H ABOVEbooREH WITH SMALL NOON ABOVEbooYEH WITH TWO DOTS BELOW AND SMALL NOON ABOVEbooAFRICAN FEH",
     "bowQAFbowNOONbooPEH WITH SMALL VbooTEH WITH SMALL VbopTEH WITH SMALL VbopCHEH WITH SMALL VbooKEH",
     "EH WITH SMALL VbooGHAIN WITH THREE DOTS ABOVEbooAFRICAN QAF WITH THREE DOTS ABOVEbooJEEM WITH TH",
     "REE DOTS ABOVEbpwBELOWbooLAM WITH SMALL ARABIC LETTER TAH ABOVEbooGRAFbuSMALL FARSI YEHbonHIGH F",
     "ARSI YEHbosYEH BARREE WITH TWO DOTS BELOWbosWORD SAHbosZAHbuLARGE ROUND DOT ABOVEboxBELOWbuSUKUN",
     " BELOWbuLARGE CIRCLE BELOWbonROUND DOT INSIDE CIRCLE BELOWbuSMALL LOW WAWbonHIGH WORD AR-RUBbosS",
     "ADbosAINbosQAFbosNOON WITH KASRAbonLOW NOON WITH KASRAbonHIGH WORD ATH-THALATHAboyS-SAJDAboyN-NI",
     "SFboxSAKTAboxQIFboxWAQFAbosFOOTNOTE MARKERbosSIGN SAFHAbuDISPUTED END OF AYAHbuTURNED DAMMA BELO",
     "WbuCURLY FATHAbonDAMMAbonKASRAbonFATHATANbonDAMMATANbonKASRATANbuTONE ONE DOT ABOVEbzTWO DOTS AB",
     "OVEbzLOOP ABOVEbzONE DOT BELOWbzTWO DOTS BELOWbzLOOP BELOWbuOPEN FATHATANbzDAMMATANbzKASRATANbuS",
     "MALL HIGH WAWbuFATHA WITH RINGbosDOT ABOVEbuKASRA WITH DOT BELOWbuLEFT ARROWHEAD ABOVEbuRIGHT AR",
     "ROWHEAD ABOVEbuLEFT ARROWHEAD BELOWbuRIGHT ARROWHEAD BELOWbuDOUBLE RIGHT ARROWHEAD ABOVEbpw WITH",
     " DOTbuRIGHT ARROWHEAD ABOVE WITH DOTbuDAMMA WITH DOTbuMARK SIDEWAYS NOON GHUNNAbDEVANAGARI SIGN ",
     "INVERTED CANDRABINDUboqCANDRABINDUboqANUSVARAboqVISARGAbyLETTER SHORT AbosAbotAbosIbotIbosUbotUb",
     "osVOCALIC RbpnLbosCANDRA EbosSHORT EbosEbosAIbosCANDRA ObosSHORT ObosObosAUbosKAbotHAbosGAbotHAb",
     "osNGAbosCAbotHAbosJAbotHAbosNYAbosTTAbouHAbosDDAbouHAbosNNAbosTAbotHAbosDAbotHAbosNAbotNNAbosPAb",
     "otHAbosBAbotHAbosMAbosYAbosRAbotRAbosLAbotLAbouLAbosVAbosSHAbotSAbotAbosHAbyVOWEL SIGN OEboxOEby",
     "SIGN NUKTAboqAVAGRAHAbyVOWEL SIGN AAbowIboxIbowUboxUbowVOCALIC RbpsRbowCANDRA EbowSHORT EbowEbow",
     "AIbowCANDRA ObowSHORT ObowObowAUbySIGN VIRAMAbyVOWEL SIGN PRISHTHAMATRA EbowAWbyOMbySTRESS SIGN ",
     "UDATTAboxANUDATTAbyGRAVE ACCENTbyACUTE ACCENTbyVOWEL SIGN CANDRA LONG EbowUEboxUEbyLETTER QAbosK",
     "HHAbosGHHAbosZAbosDDDHAbosRHAbosFAbosYYAbosVOCALIC RRbpnLLbyVOWEL SIGN VOCALIC LbpsLbyDANDAbzOUB",
     "LE DANDAbzIGIT ZEROborONEborTWObosHREEborFOURbosIVEborSIXbosEVENborEIGHTborNINEbyABBREVIATION SI",
     "GNbySIGN HIGH SPACING DOTbyLETTER CANDRA AbosOEbotOEbosAWbosUEbotUEbosMARWARI DDAbosZHAbosHEAVY ",
     "YAbosGGAbosJJAbosGLOTTAL STOPbosDDDAbosBBAbBENGALI ANJIbvSIGN CANDRABINDUbonANUSVARAbonVISARGAcv",
     "LETTER AboqAbopIboqIbopUboqUbopVOCALIC RboxLdopEbopAIdopObopAUbopKAboqHAbopGAboqHAbopNGAbopCAboq",
     "HAbopJAboqHAbopNYAbopTTAborHAbopDDAborHAbopNNAbopTAboqHAbopDAboqHAbopNAcopPAboqHAbopBAboqHAbopMA",
     "bopYAbopRAcopLAeopSHAboqSAboqAbopHAdvSIGN NUKTAbonAVAGRAHAbvVOWEL SIGN AAbotIbouIbotUbouUbotVOCA",
     "LIC RbppRdotEbotAIdotObotAUbvSIGN VIRAMAbvLETTER KHANDA TAjvAU LENGTH MARKfvLETTER RRAboqHAcopYY",
     "AbopVOCALIC RRboxLLbvVOWEL SIGN VOCALIC LbppLdvDIGIT ZERObooONEbooTWObopHREEbooFOURbopIVEbooSIXb",
     "opEVENbooEIGHTbooNINEbvLETTER RA WITH MIDDLE DIAGONALboxLOWER DIAGONALbvRUPEE MARKbooSIGNbvCURRE",
     "NCY NUMERATOR ONEbpoTWObppHREEbpoFOURbpoONE LESS THAN THE DENOMINATORborDENOMINATOR SIXTEENbvISS",
     "HARbvGANDA MARKbvLETTER VEDIC ANUSVARAbvABBREVIATION SIGNbvSANDHI MARKdGURMUKHI SIGN ADAK BINDIb",
     "ooBINDIbooVISARGAcwLETTER AborAboqIborIboqUborUfoqEEboqAIdoqOOboqAUboqKAborHAboqGAborHAboqNGAboq",
     "CAborHAboqJAborHAboqNYAboqTTAbosHAboqDDAbosHAboqNNAboqTAborHAboqDAborHAboqNAcoqPAborHAboqBAborHA",
     "boqMAboqYAboqRAcoqLAborLAcoqVAboqSHAcorAboqHAdwSIGN NUKTAcwVOWEL SIGN AAbouIbovIbouUbovUfouEEbou",
     "AIdouOObouAUbwSIGN VIRAMAeooUDAATiwLETTER KHHAboqGHHAboqZAboqRRAcoqFAiwDIGIT ZERObopONEbopTWOboq",
     "HREEbopFOURboqIVEbopSIXboqEVENbopEIGHTbopNINEbwTIPPIbwADDAKbwIRIbwURAbwEK ONKARbwSIGN YAKASHbwAB",
     "BREVIATION SIGNlpJARATI SIGN CANDRABINDUbooANUSVARAbooVISARGAcwLETTER AborAboqIborIboqUborUboqVO",
     "CALIC RboyLbwVOWEL CANDRA EcwLETTER EboqAIbwVOWEL CANDRA OcwLETTER OboqAUboqKAborHAboqGAborHAboq",
     "NGAboqCAborHAboqJAborHAboqNYAboqTTAbosHAboqDDAbosHAboqNNAboqTAborHAboqDAborHAboqNAcoqPAborHAboqB",
     "AborHAboqMAboqYAboqRAcoqLAborLAcoqVAboqSHAborSAborAboqHAdwSIGN NUKTAbooAVAGRAHAbwVOWEL SIGN AAbo",
     "uIbovIbouUbovUbouVOCALIC RbpqRbouCANDRA EcouEbouAIbouCANDRA OcouObouAUbwSIGN VIRAMAdwOMbdwLETTER",
     " VOCALIC RRboyLLbwVOWEL SIGN VOCALIC LbpqLdwDIGIT ZERObopONEbopTWOboqHREEbopFOURboqIVEbopSIXboqE",
     "VENbopEIGHTbopNINEbwABBREVIATION SIGNbwRUPEE SIGNiwLETTER ZHAbwSIGN SUKUNbopHADDAbooMADDAHbooTHR",
     "EE-DOT NUKTA ABOVEbooCIRCLE NUKTA ABOVEbooTWO-CIRCLE NUKTA ABOVEcORIYA SIGN CANDRABINDUbyANUSVAR",
     "AbyVISARGActLETTER AbooAbonIbooIbonUbooUbonVOCALIC RbovLdonEbonAIdonObonAUbonKAbooHAbonGAbooHAbo",
     "nNGAbonCAbooHAbonJAbooHAbonNYAbonTTAbopHAbonDDAbopHAbonNNAbonTAbooHAbonDAbooHAbonNAconPAbooHAbon",
     "BAbooHAbonMAbonYAbonRAconLAbooLAconVAbonSHAbooSAbooAbonHAdtSIGN NUKTAbyAVAGRAHAbtVOWEL SIGN AAbo",
     "rIbosIborUbosUborVOCALIC RbpnRdorEborAIdorOborAUbtSIGN VIRAMAiyOVERLINEbtAI LENGTH MARKbuU LENGT",
     "H MARKftLETTER RRAbooHAconYYAbonVOCALIC RRbovLLbtVOWEL SIGN VOCALIC LbpnLdtDIGIT ZERObzONEbzTWOb",
     "onHREEbzFOURbonIVEbzSIXbonEVENbzEIGHTbzNINEbtISSHARbtLETTER WAbtFRACTION ONE QUARTERbotHALFbopTH",
     "REE QUARTERSbopONE SIXTEENTHbotEIGHTHbopTHREE SIXTEENTHSlTAMIL SIGN ANUSVARAbyVISARGActLETTER Ab",
     "ooAbonIbooIbonUbooUeonEbooEbonAIconObooObonAUbonKAeonNGAbonCAconJAconNYAbonTTAeonNNAbonTAeonNAbo",
     "oNNAbonPAeonMAbonYAbonRAbooRAbonLAbooLAbopLAbonVAbonSHAbooSAbooAbonHAftVOWEL SIGN AAborIbosIborU",
     "bosUeorEbosEborAIcorObosOborAUbtSIGN VIRAMAdtOMhtAU LENGTH MARKbctDIGIT ZERObzONEbzTWObonHREEbzF",
     "OURbonIVEbzSIXbonEVENbzEIGHTbzNINEbtNUMBER TENbonONE HUNDREDborTHOUSANDbtDAY SIGNbtMONTH SIGNbtY",
     "EAR SIGNbtDEBIT SIGNbtCREDIT SIGNbtAS ABOVE SIGNbtRUPEE SIGNbtNUMBER SIGNgoELUGU SIGN COMBINING ",
     "CANDRABINDU ABOVEbonANDRABINDUbzANUSVARAbzVISARGAbzCOMBINING ANUSVARA ABOVEbuLETTER AbopAbooIbop",
     "IbooUbopUbooVOCALIC RbowLcooEbopEbooAIcooObopObooAUbooKAbopHAbooGAbopHAbooNGAbooCAbopHAbooJAbopH",
     "AbooNYAbooTTAboqHAbooDDAboqHAbooNNAbooTAbopHAbooDAbopHAbooNAcooPAbopHAbooBAbopHAbooMAbooYAbooRAb",
     "opRAbooLAbopLAboqLAbooVAbooSHAbopSAbopAbooHAduSIGN NUKTAbzAVAGRAHAbuVOWEL SIGN AAbosIbotIbosUbot",
     "UbosVOCALIC RbpoRcosEbotEbosAIcosObotObosAUbuSIGN VIRAMAiuLENGTH MARKbuAI LENGTH MARKcuLETTER TS",
     "AbooDZAbooRRRAdooNAKAARA POLLUdooVOCALIC RRbowLLbuVOWEL SIGN VOCALIC LbpoLduDIGIT ZERObonONEbonT",
     "WObooHREEbonFOURbooIVEbonSIXbooEVENbonEIGHTbonNINEiuSIGN SIDDHAMbuFRACTION DIGIT ZERO FOR ODD PO",
     "WERS OF FOURbowONE FOR ODD POWERS OF FOURbowTWO FOR ODD POWERS OF FOURboxHREE FOR ODD POWERS OF ",
     "FOURbowONE FOR EVEN POWERS OF FOURbowTWO FOR EVEN POWERS OF FOURboxHREE FOR EVEN POWERS OF FOURb",
     "uSIGN TUUMUbKANNADA SIGN SPACING CANDRABINDUbonCANDRABINDUbonANUSVARAbonVISARGAbonSIDDHAMbvLETTE",
     "R AboqAbopIboqIbopUboqUbopVOCALIC RboxLcopEboqEbopAIcopOboqObopAUbopKAboqHAbopGAboqHAbopNGAbopCA",
     "boqHAbopJAboqHAbopNYAbopTTAborHAbopDDAborHAbopNNAbopTAboqHAbopDAboqHAbopNAcopPAboqHAbopBAboqHAbo",
     "pMAbopYAbopRAboqRAbopLAboqLAcopVAbopSHAboqSAboqAbopHAdvSIGN NUKTAbonAVAGRAHAbvVOWEL SIGN AAbotIb",
     "ouIbotUbouUbotVOCALIC RbppRcotEbouEbotAIcotObouObotAUbvSIGN VIRAMAivLENGTH MARKbvAI LENGTH MARKh",
     "vLETTER NAKAARA POLLUbopFAcopVOCALIC RRboxLLbvVOWEL SIGN VOCALIC LbppLdvDIGIT ZERObooONEbooTWObo",
     "pHREEbooFOURbopIVEbooSIXbopEVENbooEIGHTbooNINEcvSIGN JIHVAMULIYAbonUPADHMANIYAbbMALAYALAM SIGN C",
     "OMBINING ANUSVARA ABOVEboqANDRABINDUbopANUSVARAbopVISARGAbxLETTER VEDIC ANUSVARAborAbosAborIbosI",
     "borUbosUborVOCALIC RbozLcorEbosEborAIcorObosOborAUborKAbosHAborGAbosHAborNGAborCAbosHAborJAbosHA",
     "borNYAborTTAbotHAborDDAbotHAborNNAborTAbosHAborDAbosHAborNAbosNNAborPAbosHAborBAbosHAborMAborYAb",
     "orRAbosRAborLAbosLAbotLAborVAborSHAbosSAbosAborHAborTTTAbxSIGN VERTICAL BAR VIRAMAbopCIRCULAR VI",
     "RAMAbopAVAGRAHAbxVOWEL SIGN AAbovIbowIbovUbowUbovVOCALIC RbprRcovEbowEbovAIcovObowObovAUbxSIGN V",
     "IRAMAbxLETTER DOT REPHbxSIGN PARAfxLETTER CHILLU MboyYboyLLLbxAU LENGTH MARKbxFRACTION ONE ONE-H",
     "UNDRED-AND-SIXTIETHboxFORTIETHbotTHREE EIGHTIETHSbotONE TWENTIETHboyENTHbotTHREE TWENTIETHSbotON",
     "E FIFTHbxLETTER ARCHAIC IIborVOCALIC RRbozLLbxVOWEL SIGN VOCALIC LbprLdxDIGIT ZEROboqONEboqTWObo",
     "rHREEboqFOURborIVEboqSIXborEVENboqEIGHTboqNINEbxNUMBER TENborONE HUNDREDbovTHOUSANDbxFRACTION ON",
     "E QUARTERboxHALFbotTHREE QUARTERSbotONE SIXTEENTHboxEIGHTHbotTHREE SIXTEENTHSbxDATE MARKbxLETTER",
     " CHILLU NNbozboyRRboyLbozLboyKcSINHALA SIGN CANDRABINDUbonANUSVARAYAbonVISARGAYAcvLETTER AYANNAb",
     "oqAYANNAboqEYANNAborEYANNAbopIYANNAboqIYANNAbopUYANNAboqUYANNAbopIRUYANNAbosUYANNAboqLUYANNAbosU",
     "YANNAbopEYANNAboqEYANNAbopAIYANNAbopOYANNAboqOYANNAbopAUYANNAeoqLPAPRAANA KAYANNAbopMAHAAPRAANA ",
     "KAYANNAbopALPAPRAANA GAYANNAbopMAHAAPRAANA GAYANNAbopKANTAJA NAASIKYAYAbopSANYAKA GAYANNAbopALPA",
     "PRAANA CAYANNAbopMAHAAPRAANA CAYANNAbopALPAPRAANA JAYANNAbopMAHAAPRAANA JAYANNAbopTAALUJA NAASIK",
     "YAYAboxSANYOOGA NAAKSIKYAYAbopSANYAKA JAYANNAbopALPAPRAANA TTAYANNAbopMAHAAPRAANA TTAYANNAbopALP",
     "APRAANA DDAYANNAbopMAHAAPRAANA DDAYANNAboqUURDHAJA NAYANNAbopSANYAKA DDAYANNAbopALPAPRAANA TAYAN",
     "NAbopMAHAAPRAANA TAYANNAbopALPAPRAANA DAYANNAbopMAHAAPRAANA DAYANNAbopDANTAJA NAYANNAcopSANYAKA ",
     "DAYANNAbopALPAPRAANA PAYANNAbopMAHAAPRAANA PAYANNAbopALPAPRAANA BAYANNAbopMAHAAPRAANA BAYANNAbor",
     "YANNAbopAMBA BAYANNAbopYAYANNAbopRAYANNAcopDANTAJA LAYANNAdopVAYANNAbopTAALUJA SAYANNAbopMUURDHA",
     "JA SAYANNAbopDANTAJA SAYANNAbopHAYANNAbopMUURDHAJA LAYANNAbopFAYANNAevSIGN AL-LAKUNAfvVOWEL SIGN",
     " AELA-PILLAbotKETTI AEDA-PILLAbotDIGA AEDA-PILLAbotKETTI IS-PILLAbotDIGA IS-PILLAbotKETTI PAA-PI",
     "LLAcotDIGA PAA-PILLAcotGAETTA-PILLAbotKOMBUVAbotDIGA KOMBUVAbotKOMBU DEKAboyVA HAA AELA-PILLAbps",
     "DIGA AELA-PILLAbpsGAYANUKITTAbotGAYANUKITTAhvLITH DIGIT ZERObotONEbotTWObouHREEbotFOURbouIVEbotS",
     "IXbouEVENbotEIGHTbotNINEdvVOWEL SIGN DIGA GAETTA-PILLAbpnYANUKITTAbvPUNCTUATION KUNDDALIYAbaTHAI",
     " CHARACTER KO KAIboqHO KHAIbovUATbovWAIbovONbotRAKHANGbopNGO NGUbopCHO CHANbovINGbovANGbopSO SOb",
     "opCHO CHOEbopYO YINGbopDO CHADAbopTO PATAKboqHO THANbotNANGMONTHObotPHUTHAObopNO NENbopDO DEKbop",
     "TO TAOboqHO THUNGbovAHANbovONGbopNO NUbopBO BAIMAIbopPO PLAboqHO PHUNGbopFO FAbopPHO PHANbopFO F",
     "ANbopPHO SAMPHAObopMO MAbopYO YAKbopRO RUAboqUbopLO LINGboqUbopWO WAENbopSO SALAbosRUSIbosSUAbop",
     "HO HIPbopLO CHULAbopO ANGbopHO NOKHUKbopPAIYANNOIbopSARA AbopMAI HAN-AKATbopSARA AAbovMbouIbovIb",
     "ouUEbowEbovbovUbopPHINTHUftURRENCY SYMBOL BAHTbtHARACTER SARA EbouAEbouObouAI MAIMUANbpoALAIbopL",
     "AKKHANGYAObopMAIYAMOKbosTAIKHUbos EKbotTHObouRIbotCHATTAWAbopTHANTHAKHATbopNIKHAHITbopYAMAKKANbo",
     "pFONGMANbsDIGIT ZERObyONEbyTWObzHREEbyFOURbzIVEbySIXbzEVENbyEIGHTbyNINEbsCHARACTER ANGKHANKHUbop",
     "KHOMUTcmLAO LETTER KObzHO SUNGcopTAMcyPALI GHAbyNGObyCObyPALI CHAbySO TAMcyPALI JHAbyNYObyPALI N",
     "YAboqTTAbosHAboqDDAbosHAboqNNAbyDObyTObzHO SUNGbopTAMbyPALI DHAbyNObyBObyPObzHO SUNGbyFO TAMbyPH",
     "O TAMbyFO SUNGbyPALI BHAbyMObyYObyLO LINGcopOOTcyWObySANSKRIT SHAbovSAbzO SUNGbyHO SUNGbyPALI LL",
     "AbyObyHO TAMbrELLIPSISbrVOWEL SIGN AbopMAI KANbopAAboqMbopIboqIbopYboqYbopUboqUbrSIGN PALI VIRAM",
     "AbrVOWEL SIGN MAI KONbrSEMIVOWEL SIGN LObotNYOdrVOWEL SIGN EboqIbopObopAYboqIcrKO LAcrTONE MAI E",
     "KbonTHObooIbonCATAWAbrCANCELLATION MARKbrNIGGAHITAdrDIGIT ZERObxONEbxTWObyHREEbxFOURbyIVEbxSIXby",
     "EVENbxEIGHTbxNINEdrHO NObuMObrLETTER KHMU GOboqNYOchTIBETAN SYLLABLE OMbvMARK GTER YIG MGO TRUNC",
     "ATED Abpn-UM RNAM BCAD MAbprGTER TSHEG MAbonINITIAL YIG MGO MDUN MAbonCLOSING YIG MGO SGAB MAboo",
     "ARET YIG MGO PHUR SHAD MAbonYIG MGO TSHEG SHAD MAbonSBRUL SHADbonBSKUR YIG MGObooKA- SHOG YIG MG",
     "ObonINTERSYLLABIC TSHEGbonDELIMITER TSHEG BSTARbonSHADbonNYIS SHADbonTSHEG SHADbonNYIS TSHEG SHA",
     "DbonRIN CHEN SPUNGS SHADbooGYA GRAM SHADbonCARET -DZUD RTAGS ME LONG CANbonGTER TSHEGbvLOGOTYPE ",
     "SIGN CHAD RTAGSbowLHAG RTAGSbvASTROLOGICAL SIGN SGRA GCAN -CHAR RTAGSbpn-KHYUD PAbpnSDONG TSHUGS",
     "bvSIGN RDEL DKAR GCIGboyNYISboySUMbosNAG GCIGboxNYISbosDKAR RDEL NAGbvDIGIT ZERObooONEbooTWObopH",
     "REEbooFOURbopIVEbooSIXbopEVENbooEIGHTbooNINEbooHALF ONEbotTWObouHREEbotFOURbouIVEbotSIXbouEVENbo",
     "tEIGHTbotNINEbotZERObvMARK BSDUS RTAGSbonNGAS BZUNG NYI ZLAbonCARET -DZUD RTAGS BZHI MIG CANbonN",
     "GAS BZUNG SGOR RTAGSbonCHE MGObonTSA -PHRUbonGUG RTAGS GYONbozASbonANG KHANG GYONbozASbvSIGN YAR",
     " TSHESbonMAR TSHESbvLETTER KAboqHAbopGAboqHAbopNGAbopCAboqHAbopJAcopNYAbopTTAborHAbopDDAborHAbop",
     "NNAbopTAboqHAbopDAboqHAbopNAbopPAboqHAbopBAboqHAbopMAbopTSAborHAbopDZAborHAbopWAbopZHAboqAbop-Ab",
     "opYAbopRAbopLAbopSHAboqSAboqAbopHAbopAbopKSSAbopFIXED-FORM RAbopKKAbopRRAfvVOWEL SIGN AAbotIbouI",
     "botUbouUbotVOCALIC RbppRbpoLbppLbotEbouEbotObouObvSIGN RJES SU NGA RObooNAM BCADbvVOWEL SIGN REV",
     "ERSED IbpqIbvSIGN NYI ZLA NAA DAbonSNA LDANbvMARK HALANTAbonPALUTAbvSIGN LCI RTAGSbonYANG RTAGSb",
     "onLCE TSA CANbonMCHU CANbonGRU CAN RGYINGSborMED RGYINGSbonINVERTED MCHU CANbwUBJOINED SIGN LCE ",
     "TSA CANboxMCHU CANboxINVERTED MCHU CANbosLETTER KAbpnHAbozGAbpnHAbozNGAbozCAbpnHAbozJAcozNYAbozT",
     "TAbpoHAbozDDAbpoHAbozNNAbozTAbpnHAbozDAbpnHAbozNAbozPAbpnHAbozBAbpnHAbozMAbozTSAbpoHAbozDZAbpoHA",
     "bozWAbozZHAbpnAboz-AbozYAbozRAbozLAbozSHAbpnSAbpnAbozHAbozAbozKSSAbozFIXED-FORM WAbpxYAbpxRAcvKU",
     " RU KHAbor BZHI MIG CANbvCANTILLATION SIGN HEAVY BEATbpnLIGHT BEATbpnCANG TE-UbpnSBUB -CHALbvSYM",
     "BOL DRIL BUbopRDO RJEbopPADMA GDANbopRDO RJE RGYA GRAMbopPHUR PAbopNOR BUbov NYIS -KHYILbowGSUM ",
     "-KHYILbowBZHI -KHYILcwIGN RDEL NAG RDEL DKARbowGSUMbvMARK BSKA- SHOG GI MGO RGYANbonMNYAM YIG GI",
     " MGO RGYANbonNYIS TSHEGbonINITIAL BRDA RNYING YIG MGO MDUN MAbonCLOSING BRDA RNYING YIG MGO SGAB",
     " MAbRIGHT-FACING SVASTI SIGNbLEFT-FACING SVASTI SIGNbRIGHT-FACING SVASTI SIGN WITH DOTSbLEFT-FAC",
     "ING SVASTI SIGN WITH DOTSbTIBETAN MARK LEADING MCHAN RTAGSbonTRAILING MCHAN RTAGScmMYANMAR LETTE",
     "R KAboqHAbopGAboqHAbopNGAbopCAboqHAbopJAboqHAbopNYAboqNYAbopTTAborHAbopDDAborHAbopNNAbopTAboqHAb",
     "opDAboqHAbopNAbopPAboqHAbopBAboqHAbopMAbopYAbopRAbopLAbopWAbopSAbopHAbopLLAbopAbopSHAN AbopIboqI",
     "bopUboqUbopEbopMON EbopObopAUbvVOWEL SIGN TALL AAbotAAbotIbouIbotUbouUbotEbotAIbotMON IIboxObotE",
     " ABOVEbvSIGN ANUSVARAbonDOT BELOWbonVISARGAbopRAMAbonASATbvCONSONANT SIGN MEDIAL YAbprRAbprWAbpr",
     "HAbvLETTER GREAT SAbvDIGIT ZERObooONEbooTWObopHREEbooFOURbopIVEbooSIXbopEVENbooEIGHTbooNINEbvSIG",
     "N LITTLE SECTIONbonSECTIONbwYMBOL LOCATIVEbopCOMPLETEDbopAFOREMENTIONEDbopGENITIVEbvLETTER SHAbo",
     "qSAbopVOCALIC RboyRboxLboyLbvVOWEL SIGN VOCALIC RbppRbpoLbppLbvLETTER MON NGAbotJHAbotBBAbovEbvC",
     "ONSONANT SIGN MON MEDIAL NAbpvMAbpvLAbvLETTER SGAW KAREN SHAbvVOWEL SIGN SGAW KAREN EUbvTONE MAR",
     "K SGAW KAREN HATHIbpqKE PHObvLETTER WESTERN PWO KAREN THAbpuPWAbvVOWEL SIGN WESTERN PWO KAREN EU",
     "bpyUEbvSIGN WESTERN PWO KAREN TONE-1bpx2bpx3bpx4bpx5bvLETTER EASTERN PWO KAREN NNAbpuYWAbpuGHWAb",
     "vVOWEL SIGN GEBA KAREN IbotKAYAH OEbozUbozEEbvLETTER SHAN KAbovHAbouGAbouCAbouZAbouNYAbouDAbouNA",
     "bouPHAbouFAbouBAbouTHAbouHAbvCONSONANT SIGN SHAN MEDIAL WAbvVOWEL SIGN SHAN AAboyEboz ABOVEboyFI",
     "NAL YbvSIGN SHAN TONE-2box3box5box6bosCOUNCIL TONE-2bps3bpnEMPHATIC TONEbvLETTER RUMAI PALAUNG F",
     "AbvSIGN RUMAI PALAUNG TONE-5bwHAN DIGIT ZERObotONEbotTWObouHREEbotFOURbouIVEbotSIXbouEVENbotEIGH",
     "TbotNINEbwIGN KHAMTI TONE-1boz3bvVOWEL SIGN AITON AbpnIbvSYMBOL SHAN ONEbouEXCLAMATIONbGEORGIAN ",
     "CAPITAL LETTER ANboyBANboyGANboyDONboyENboyVINboyZENboyTANboyINboyKANboyLASboyMANboyNARboyONboyP",
     "ARboyZHARboyRAEboySANboyTARboyUNboyPHARboyKHARboyGHANboyQARboySHINboyCHINbozANboyJILboyCILbozHAR",
     "boyXANboyJHANboyHAEbozEbozIEboyWEboyHARbozOEcoyYNgoyAENdwLETTER ANboqBANboqGANboqDONboqENboqVINb",
     "oqZENboqTANboqINboqKANboqLASboqMANboqNARboqONboqPARboqZHARboqRAEboqSANboqTARboqUNboqPHARboqKHARb",
     "oqGHANboqQARboqSHINboqCHINborANboqJILboqCILborHARboqXANboqJHANboqHAEborEborIEboqWEboqHARborOEboq",
     "FIboqYNboqELIFIboqTURNED GANboqAINbwPARAGRAPH SEPARATORbMODIFIER LETTER GEORGIAN NARbGEORGIAN LE",
     "TTER AENboqHARD SIGNboqLABIAL SIGNbHANGUL CHOSEONG KIYEOKboqSSANGKIYEOKboqNIEUNboqTIKEUTboqSSANG",
     "TIKEUTboqRIEULboqMIEUMboqPIEUPboqSSANGPIEUPborIOSborSANGSIOSboqIEUNGboqCIEUCboqSSANGCIEUCboqCHIE",
     "UCHboqKHIEUKHboqTHIEUTHboqPHIEUPHboqHIEUHboqNIEUN-KIYEOKboqSSANGNIEUNboqNIEUN-TIKEUTbowPIEUPboqT",
     "IKEUT-KIYEOKboqRIEUL-NIEUNboqSSANGRIEULboqRIEUL-HIEUHboqKAPYEOUNRIEULboqMIEUM-PIEUPboqKAPYEOUNMI",
     "EUMboqPIEUP-KIYEOKbowNIEUNbowTIKEUTbowSIOSbpn-KIYEOKbpoTIKEUTbpoPIEUPboxSANGSIOSboxIOS-CIEUCbowC",
     "IEUCboxHIEUCHbowTHIEUTHbowPHIEUPHboqKAPYEOUNPIEUPboySSANGPIEUPboqSIOS-KIYEOKbovNIEUNbovTIKEUTbov",
     "RIEULbovMIEUMbovPIEUPbpn-KIYEOKbovSSANGSIOSbovIEUNGbovCIEUCbowHIEUCHbovKHIEUKHbovTHIEUTHbovPHIEU",
     "PHbovHIEUHboqCHITUEUMSIOSbozSANGSIOSborEONGCHIEUMSIOSbppSANGSIOSboqPANSIOSboqIEUNG-KIYEOKbowTIKE",
     "UTbowMIEUMbowPIEUPbowSIOSbowPANSIOSboqSSANGIEUNGboqIEUNG-CIEUCboxHIEUCHbowTHIEUTHbowPHIEUPHboqYE",
     "SIEUNGboqCIEUC-IEUNGborHITUEUMCIEUCboySSANGCIEUCborEONGCHIEUMCIEUCbpoSSANGCIEUCborHIEUCH-KHIEUKH",
     "boyHIEUHbotTUEUMCHIEUCHborEONGCHIEUMCHIEUCHboqPHIEUPH-PIEUPboqKAPYEOUNPHIEUPHboqSSANGHIEUHboqYEO",
     "RINHIEUHboqKIYEOK-TIKEUTboqNIEUN-SIOSbowCIEUCbowHIEUHboqTIKEUT-RIEULboqFILLERbuJUNGSEONG FILLERb",
     "orAbosEborYAbotEborEObosborYEObotborOborWAbotEborOEborYOborUborWEObotbosIborYUborEUborYIborIborA",
     "-ObotUborYA-ObouYOborEO-ObouUbouEUborYEO-ObovUborO-EOboubotYEbotObotUborYO-YAbowEbovEObouObouIbo",
     "rU-AbouEbotEO-EUbotYEbotUborYU-AbouEObovbouYEObowbouUbouIborEU-UbouEUborYI-UborI-AbotYAbotObotUb",
     "otEUbotARAEAborARAEAbow-EOboxUboxIborSSANGARAEAborA-EUborYA-UbosEO-YAborO-YAbovEbvONGSEONG KIYEO",
     "KborSSANGKIYEOKborKIYEOK-SIOSborNIEUNbow-CIEUCboxHIEUHborTIKEUTborRIEULbow-KIYEOKboxMIEUMboxPIEU",
     "PboxSIOSboxTHIEUTHboxPHIEUPHboxHIEUHborMIEUMborPIEUPbow-SIOSborSIOSbosSANGSIOSborIEUNGborCIEUCbo",
     "sHIEUCHborKHIEUKHborTHIEUTHborPHIEUPHborHIEUHborKIYEOK-RIEULboySIOS-KIYEOKborNIEUN-KIYEOKboxTIKE",
     "UTboxSIOSboxPANSIOSboxTHIEUTHborTIKEUT-KIYEOKboyRIEULborRIEUL-KIYEOK-SIOSboxNIEUNboxTIKEUTbpq-HI",
     "EUHborSSANGRIEULborRIEUL-MIEUM-KIYEOKbpqSIOSboxPIEUP-SIOSbpqHIEUHboxKAPYEOUNPIEUPboxSSANGSIOSbox",
     "PANSIOSboxKHIEUKHboxYEORINHIEUHborMIEUM-KIYEOKboxRIEULboxPIEUPboxSIOSboySANGSIOSboxPANSIOSboxCHI",
     "EUCHboxHIEUHborKAPYEOUNMIEUMborPIEUP-RIEULboxPHIEUPHboxHIEUHborKAPYEOUNPIEUPborSIOS-KIYEOKbowTIK",
     "EUTbowRIEULbowPIEUPborPANSIOSborIEUNG-KIYEOKboxSSANGKIYEOKborSSANGIEUNGborIEUNG-KHIEUKHborYESIEU",
     "NGboz-SIOSbpnPANSIOSborPHIEUPH-PIEUPborKAPYEOUNPHIEUPHborHIEUH-NIEUNboxRIEULboxMIEUMboxPIEUPborY",
     "EORINHIEUHborKIYEOK-NIEUNboyPIEUPboyCHIEUCHboyKHIEUKHboyHIEUHborSSANGNIEUNbETHIOPIC SYLLABLE HAb",
     "otUbotIbotAAbotEEboubotObouAbosLAbotUbotIbotAAbotEEboubotObotWAbosHHAbouUbouIbouAAbouEEbovbouObo",
     "uWAbosMAbotUbotIbotAAbotEEboubotObotWAbosSZAbouUbouIbouAAbouEEbovbouObouWAbosRAbotUbotIbotAAbotE",
     "EboubotObotWAbosSAbotUbotIbotAAbotEEboubotObotWAbotHAbouUbouIbouAAbouEEbovbouObouWAbosQAbotUbotI",
     "botAAbotEEboubotObouAbotWAcouIbouAAbouEEbovdotHAbouUbouIbouAAbouEEbovbouOcouWAcovIbovAAbovEEbowd",
     "osBAbotUbotIbotAAbotEEboubotObotWAbosVAbotUbotIbotAAbotEEboubotObotWAbosTAbotUbotIbotAAbotEEboub",
     "otObotWAbosCAbotUbotIbotAAbotEEboubotObotWAbosXAbotUbotIbotAAbotEEboubotObouAbotWAcouIbouAAbouEE",
     "bovdosNAbotUbotIbotAAbotEEboubotObotWAbotYAbouUbouIbouAAbouEEbovbouObouWAbosGLOTTAL AbpnUbpnIbpn",
     "AAbpnEEbpobpnObpnWAbosKAbotUbotIbotAAbotEEboubotObouAbotWAcouIbouAAbouEEbovdotXAbouUbouIbouAAbou",
     "EEbovbouOcouWAcovIbovAAbovEEbowdosWAbotUbotIbotAAbotEEboubotObouAbosPHARYNGEAL AbpqUbpqIbpqAAbpq",
     "EEbprbpqOcosZAbotUbotIbotAAbotEEboubotObotWAbotHAbouUbouIbouAAbouEEbovbouObouWAbosYAbotUbotIbotA",
     "AbotEEboubotObouAbosDAbotUbotIbotAAbotEEboubotObotWAbotDAbouUbouIbouAAbouEEbovbouObouWAbosJAbotU",
     "botIbotAAbotEEboubotObotWAbosGAbotUbotIbotAAbotEEboubotObouAbotWAcouIbouAAbouEEbovdotGAbouUbouIb",
     "ouAAbouEEbovbouObouWAAbosTHAbouUbouIbouAAbouEEbovbouObouWAbosCHAbouUbouIbouAAbouEEbovbouObouWAbo",
     "sPHAbouUbouIbouAAbouEEbovbouObouWAbosTSAbouUbouIbouAAbouEEbovbouObouWAbotZAbouUbouIbouAAbouEEbov",
     "bouObovAbosFAbotUbotIbotAAbotEEboubotObotWAbosPAbotUbotIbotAAbotEEboubotObotWAbosRYAbosMYAbosFYA",
     "dwCOMBINING GEMINATION AND VOWEL LENGTH MARKbotVOWEL LENGTH MARKbotGEMINATION MARKbwSECTION MARK",
     "bwWORDSPACEbwFULL STOPbwCOMMAbwSEMICOLONbwCOLONbwPREFACE COLONbwQUESTION MARKbwPARAGRAPH SEPARAT",
     "ORbwDIGIT ONEbopTWOboqHREEbopFOURboqIVEbopSIXboqEVENbopEIGHTbopNINEbwNUMBER TENborWENTYborHIRTYb",
     "oqFORTYborIFTYboqSIXTYborEVENTYboqEIGHTYboqNINETYboqHUNDREDboqTEN THOUSANDewSYLLABLE SEBATBEIT M",
     "WAbosMWIbouEEbovbosSEBATBEIT BWAbosBWIbouEEbovbosSEBATBEIT FWAbosFWIbouEEbovbosSEBATBEIT PWAbosP",
     "WIbouEEbovbwTONAL MARK YIZETbouDERETbouRIKRIKbouSHORT RIKRIKbouDIFATbouKENATbouCHIRETbouHIDETbou",
     "DERET-HIDETbouKURThCHEROKEE LETTER AboqEboqIboqOboqUboqVboqGAboqKAboqGEborIborOborUborVboqHAborE",
     "borIborOborUborVboqLAborEborIborOborUborVboqMAborEborIborOborUboqNAboqHNAboqNAHborEborIborOborUb",
     "orVboqQUAbosEbosIbosObosUbosVboqSAborborEborIborOborUborVboqDAboqTAboqDEboqTEboqDIboqTIboqDOborU",
     "borVborLAboqTLAbosEbosIbosObosUbosVborSAbosEbosIbosObosUbosVboqWAborEborIborOborUborVboqYAborEbo",
     "rIborOborUborVboqMVdwSMALL LETTER YEboxIboxOboxUboxVbowMVdoANADIAN SYLLABICS HYPHENbotEbotAAIbot",
     "IbouIbotObouObotY-CREE OObotCARRIER EEbpoIbotAbouAbotWEbovST-CREE WEbouIbouEST-CREE WIbouIIbouES",
     "T-CREE WIIbouObouEST-CREE WObouOObouEST-CREE WOObotNASKAPI WOObotWAbouEST-CREE WAbouAAbouEST-CRE",
     "E WAAbotNASKAPI WAAbotAIbotY-CREE WbotGLOTTAL STOPbotFINAL ACUTEbozGRAVEbozBOTTOM HALF RINGbozTO",
     "P HALF RINGbozRIGHT HALF RINGbpoNGbozDOUBLE ACUTEbptSHORT VERTICAL STROKESbozMIDDLE DOTbozSHORT ",
     "HORIZONTAL STROKEbozPLUSbozDOWN TACKbotENbotINbotONbotANbotPEbouAAIbouIbovIbouObovObotY-CREE POO",
     "botCARRIER HEEbppIbotPAbovAbouWEbotWEST-CREE PWEbotPWIbotWEST-CREE PWIbotPWIIbotWEST-CREE PWIIbo",
     "tPWObotWEST-CREE PWObotPWOObotWEST-CREE PWOObotPWAbotWEST-CREE PWAbotPWAAbotWEST-CREE PWAAbotY-C",
     "REE PWAAbotPbotWEST-CREE PbotCARRIER HbotTEbouAAIbouIbovIbouObovObotY-CREE TOObotCARRIER DEEbppI",
     "botTAbovAbouWEbotWEST-CREE TWEbotTWIbotWEST-CREE TWIbotTWIIbotWEST-CREE TWIIbotTWObotWEST-CREE T",
     "WObotTWOObotWEST-CREE TWOObotTWAbotWEST-CREE TWAbotTWAAbotWEST-CREE TWAAbotNASKAPI TWAAbotTbouTE",
     "bovIbovObovAbotKEbouAAIbouIbovIbouObovObotY-CREE KOObotKAbovAbouWEbotWEST-CREE KWEbotKWIbotWEST-",
     "CREE KWIbotKWIIbotWEST-CREE KWIIbotKWObotWEST-CREE KWObotKWOObotWEST-CREE KWOObotKWAbotWEST-CREE",
     " KWAbotKWAAbotWEST-CREE KWAAbotNASKAPI KWAAbotKbouWbotSOUTH-SLAVEY KEHbpuIHbpuOHbpuAHbotCEbouAAI",
     "bouIbovIbouObovObotY-CREE COObotCAbovAbouWEbotWEST-CREE CWEbotCWIbotWEST-CREE CWIbotCWIIbotWEST-",
     "CREE CWIIbotCWObotWEST-CREE CWObotCWOObotWEST-CREE CWOObotCWAbotWEST-CREE CWAbotCWAAbotWEST-CREE",
     " CWAAbotNASKAPI CWAAbotCbotSAYISI THbotMEbouAAIbouIbovIbouObovObotY-CREE MOObotMAbovAbouWEbotWES"]

def characterNameRecordsPart3 : String :=
  String.join
    ["T-CREE MWEbotMWIbotWEST-CREE MWIbotMWIIbotWEST-CREE MWIIbotMWObotWEST-CREE MWObotMWOObotWEST-CRE",
     "E MWOObotMWAbotWEST-CREE MWAbotMWAAbotWEST-CREE MWAAbotNASKAPI MWAAbotMbotWEST-CREE MbotMHbotATH",
     "APASCAN MbotSAYISI MbotNEbouAAIbouIbovIbouObovObotY-CREE NOObotNAbovAbouWEbotWEST-CREE NWEbotNWA",
     "botWEST-CREE NWAbotNWAAbotWEST-CREE NWAAbotNASKAPI NWAAboubotCARRIER NGbotNHbotLEbouAAIbouIbovIb",
     "ouObovObotY-CREE LOObotLAbovAbouWEbotWEST-CREE LWEbotLWIbotWEST-CREE LWIbotLWIIbotWEST-CREE LWII",
     "botLWObotWEST-CREE LWObotLWOObotWEST-CREE LWOObotLWAbotWEST-CREE LWAbotLWAAbotWEST-CREE LWAAbotL",
     "botWEST-CREE LbotMEDIAL LbotSEbouAAIbouIbovIbouObovObotY-CREE SOObotSAbovAbouWEbotWEST-CREE SWEb",
     "otSWIbotWEST-CREE SWIbotSWIIbotWEST-CREE SWIIbotSWObotWEST-CREE SWObotSWOObotWEST-CREE SWOObotSW",
     "AbotWEST-CREE SWAbotSWAAbotWEST-CREE SWAAbotNASKAPI SWAAbotSbotATHAPASCAN SbotSWbotBLACKFOOT Sbo",
     "tMOOSE-CREE SKbotNASKAPI SKWbpp-WbppPWAbppTWAbppKWAbppCWAbotSHEbovIbowIbovObowObovAbowAbovWEbotW",
     "EST-CREE SHWEbotSHWIbotWEST-CREE SHWIbotSHWIIbotWEST-CREE SHWIIbotSHWObotWEST-CREE SHWObotSHWOOb",
     "otWEST-CREE SHWOObotSHWAbotWEST-CREE SHWAbotSHWAAbotWEST-CREE SHWAAbotSHbotYEbouAAIbouIbovIbouOb",
     "ovObou-CREE YOObouAbovAbouWEbotWEST-CREE YWEbotYWIbotWEST-CREE YWIbotYWIIbotWEST-CREE YWIIbotYWO",
     "botWEST-CREE YWObotYWOObotWEST-CREE YWOObotYWAbotWEST-CREE YWAbotYWAAbotWEST-CREE YWAAbotNASKAPI",
     " YWAAbotYbotBIBLE-CREE YbotWEST-CREE YbotSAYISI YIbotREbou-CREE REbotWEST-CREE LEbotRAAIbouIbovI",
     "bouObovObotWEST-CREE LObotRAbovAbotWEST-CREE LAbotRWAAbotWEST-CREE RWAAbotRbotWEST-CREE RbotMEDI",
     "AL RbotFEbouAAIbouIbovIbouObovObouAbovAbouWAAbotWEST-CREE FWAAbotFbotTHEbotN-CREE THEbotTHIbotN-",
     "CREE THIbotTHIIbotN-CREE THIIbotTHObowObovAbowAbovWAAbotWEST-CREE THWAAbotTHbouTHEbowIbowObowAbo",
     "wbouYEbovIbovObovAbotNUNAVIK HEbppIbpqIbppObpqObppAbpqAbppboyUT HbotHKbotQAAIbouIbovIbouObovObou",
     "AbovAboubotTLHEbowIbowObowAbotWEST-CREE REbprIbprObprAbotNGAAIbovIbowIbovObowObovAbowAbovbouNGbo",
     "tSAYISI SHEbppIbppObppAbotWOODS-CREE THEbptIbptObptAbptbotLHIbowIbovObowObovAbowAbovbotTH-CREE T",
     "HEbpqIbprIbpqObprObpqAbprAbpqbotAIVILIK BbotBLACKFOOT EbpqIbpqObpqAbpqWEbprIbprObprAbpqNEbprIbpr",
     "ObprAbpqKEbprIbprObprAbotSAYISI HEbpoIbpoObpoAbotCARRIER GHUbpqObpqEbprEbpqIbpqAbpoRUbppObppEbpq",
     "EbppIbppAbpoWUbppObppEbpqEbppIbppAbpoHWUbpqObpqEbprEbpqIbpqAbpoTHUbpqObpqEbprEbpqIbpqAbppTUbpqOb",
     "pqEbprEbpqIbpqAbpoPUbppObppEbpqEbppIbppAbppbpoGUbppObppEbpqEbppIbppAbpoKHUbpqObpqEbprEbpqIbpqAbp",
     "pKUbpqObpqEbprEbpqIbpqAbpqbpoNUbppObppEbpqEbppIbppAbpoMUbppObppEbpqEbppIbppAbpoYUbppObppEbpqEbpp",
     "IbppAbpoJUbotSAYISI JUbotCARRIER JObppEbpqEbppIbotSAYISI JIbotCARRIER JAbppJUbpqObpqEbprEbpqIbpq",
     "AbpoLUbppObppEbpqEbppIbppAbpoDLUbpqObpqEbprEbpqIbpqAbpoLHUbpqObpqEbprEbpqIbpqAbpoTLHUbprObprEbps",
     "EbprIbprAbpqUbpqObpqEbprEbpqIbpqAbpoZUbppObppEbpqEbppIbppAbppbpoINITIAL ZbpoDZUbpqObpqEbprEbpqIb",
     "pqAbpoSUbppObppEbpqEbppIbppAbppHUbpqObpqEbprEbpqIbpqAbpqbpoTSUbpqObpqEbprEbpqIbpqAbpoCHUbpqObpqE",
     "bprEbpqIbpqAbpoTTSUbprObprEbpsEbprIbprAbouHI SIGNbotFULL STOPbotQAIbotNGAIbouNGIboxIbowOboxObowA",
     "boxAbotWOODS-CREE THWEEbpuIbpvIbpuObpvObpuAbpvAbprFINAL THbotBLACKFOOT WbOGHAM SPACE MARKbtLETTE",
     "R BEITHbonLUISbonFEARNbonSAILbonNIONbonUATHbonDAIRbonTINNEbonCOLLbooEIRTbonMUINbonGORTbonNGEADAL",
     "bonSTRAIFbonRUISbonAILMbonONNbonURbonEADHADHbonIODHADHbonEABHADHbonORbonUILLEANNbonIFINbonEAMHAN",
     "CHOLLbonPEITHbtFEATHER MARKbtREVERSED FEATHER MARKeRUNIC LETTER FEHU FEOH FE FbonVbonURUZ UR Ubo",
     "nYRboobonWbonTHURISAZ THURS THORNbonETHbonANSUZ AbonOS ObonAC AbooESCbonLONG-BRANCH-OSS ObonSHOR",
     "T-TWIG-OSS ObonObooEbooNbonRAIDO RAD REID RbonKAUNAbonCENbonKAUN KbonGbonENGbonGEBO GYFU GbooARb",
     "onWUNJO WYNN WbonHAGLAZ HbopEGL HbonLONG-BRANCH-HAGALL HbonSHORT-TWIG-HAGALL HbonNAUDIZ NYD NAUD",
     " NbonSHORT-TWIG-NAUD NbonDOTTED-NbonISAZ IS ISS IbonEbonJERAN JbonGERbonLONG-BRANCH-AR AEbonSHOR",
     "T-TWIG-AR AbonIWAZ EOHbonPERTHO PEORTH PbonALGIZ EOLHXbonSOWILO SbooIGEL LONG-BRANCH-SOL SbooHOR",
     "T-TWIG-SOL SbonCbonZbonTIWAZ TIR TYR TbonSHORT-TWIG-TYR TbonDbonBERKANAN BEORC BJARKAN BbonSHORT",
     "-TWIG-BJARKAN BbonDOTTED-PbonOPEN-PbonEHWAZ EH EbonMANNAZ MAN MbonLONG-BRANCH-MADR MbonSHORT-TWI",
     "G-MADR MbonLAUKAZ LAGU LOGR LbonDOTTED-LbonINGWAZboqbonDAGAZ DAEG DbonOTHALAN ETHEL ObonEARbonIO",
     "RbonCWEORTHbooALCbooEALCbonSTANbonLONG-BRANCH-YRbonSHORT-TWIG-YRbonICELANDIC-YRbonQbonXbtSINGLE ",
     "PUNCTUATIONbtMULTIPLE PUNCTUATIONbtCROSS PUNCTUATIONbtARLAUG SYMBOLbtTVIMADUR SYMBOLbtBELGTHOR S",
     "YMBOLbtLETTER KbonSHbonOObonFRANKS CASKET OSbpoISbpoEHbpoACbppESCiTAGALOG LETTER AbopIbopUbopKAb",
     "opGAbopNGAbopTAbopDAbopNAbopPAbopBAbopMAbopYAbopRAbopLAbopWAbopSAbopHAbvVOWEL SIGN IbotUbvSIGN V",
     "IRAMAbonPAMUDPODkvLETTER ARCHAIC RAbHANUNOO LETTER AbopIbopUbopKAbopGAbopNGAbopTAbopDAbopNAbopPA",
     "bopBAbopMAbopYAbopRAbopLAbopWAbopSAbopHAbvVOWEL SIGN IbotUbvSIGN PAMUDPODbPHILIPPINE SINGLE PUNC",
     "TUATIONbyDOUBLE PUNCTUATIONkBUHID LETTER AbonIbonUbonKAbonGAbonNGAbonTAbonDAbonNAbonPAbonBAbonMA",
     "bonYAbonRAbonLAbonWAbonSAbonHAbtVOWEL SIGN IborUbaTAGBANWA LETTER AboqIboqUboqKAboqGAboqNGAboqTA",
     "boqDAboqNAboqPAboqBAboqMAboqYAcoqLAboqWAboqSAcwVOWEL SIGN IbouUbaKHMER LETTER KAbooHAbooObooHObo",
     "nNGObonCAbooHAbooObooHObonNYObonDAbonTTHAbonDObonTTHObonNNObonTAbooHAbooObooHObonNObonBAbonPHAbo",
     "oObooHObonMObonYObonRObonLObonVObonSHAbooSObooAbonHAbonLAbonQAbtINDEPENDENT VOWEL QAQbpnAbozIbpn",
     "IbozUbpnKbpnUbpoVboyRYbpnYboyLYbpnYboyQEbozAIbozOO TYPE ONEbpuTWObozAUbtVOWEL INHERENT AQbowAbzS",
     "IGN AAborIbosIborYbosYborUbosUbosAborOEborYAborIEborEborAEbosIborOOborAUbtSIGN NIKAHITbyREAHMUKb",
     "yYUUKALEAPINTUbyMUUSIKATOANbyTRIISAPbyBANTOCbyROBATbyTOANDAKHIATbyKAKABATbyAHSDAbySAMYOK SANNYAb",
     "yVIRIAMbyCOENGbyBATHAMASATbyKHANbyBARIYOOSANbyCAMNUC PII KUUHbyLEK TOObyBEYYALbyPHNAEK MUANbyKOO",
     "MUUTbtCURRENCY SYMBOL RIELbtSIGN AVAKRAHASANYAbzTTHACANdtDIGIT ZERObzONEbzTWObonHREEbzFOURbonIVE",
     "bzSIXbonEVENbzEIGHTbzNINEhtSYMBOL LEK ATTAK SONboxMUOYboxPIIboxBEIboyUONboxPRAMbpo-MUOYbppPIIbpp",
     "BEIbpqUONhMONGOLIAN BIRGAbxELLIPSISbxCOMMAbxFULL STOPbxCOLONbxFOUR DOTSbxTODO SOFT HYPHENbxSIBE ",
     "SYLLABLE BOUNDARY MARKERbxMANCHU COMMAborFULL STOPbxNIRUGUbxFREE VARIATION SELECTOR ONEbpvTWObpw",
     "HREEbxVOWEL SEPARATORbxFREE VARIATION SELECTOR FOURbxDIGIT ZEROboqONEboqTWOborHREEboqFOURborIVEb",
     "oqSIXborEVENboqEIGHTboqNINEhxLETTER AborEborIborOborUborOEborUEborEEborNAborANGborBAborPAborQAbo",
     "rGAborMAborLAborSAbosHAborTAborDAborCHAborJAborYAborRAborWAborFAborKAbosHAborTSAborZAborHAAborZR",
     "AborLHAborZHIborCHIborTODO LONG VOWEL SIGNbowEbowIbowObowUbowOEbowUEbowANGbowBAbowPAbowQAbowGAbo",
     "wMAbowTAbowDAbowCHAbowJAbowTSAbowYAbowWAbowKAbowGAAbowHAAbowJIAbowNIAbowDZAborSIBE EbowIboxYbowU",
     "EboxbowANGbowKAbowGAbowHAbowPAbowSHAbowTAbowDAbowJAbowFAbowGAAbowHAAbowTSAbowZAbowRAAbowCHAbowZH",
     "AborMANCHU IboyKAboyRAboyFAboyZHAborCHA WITH TWO DOTSiorALI GALI ANUSVARA ONEbpnVISARGA ONEbpnDA",
     "MARUbpnUBADAMAbpnINVERTED UBADAMAbpnBALUDAbpnTHREE BALUDAbpnAbpnIbpnKAbpnNGAbpnCAbpnTTAbppHAbpnD",
     "DAbpnNNAbpnTAbpnDAbpnPAbpoHAbpnSSAbpnZHAbpoAbpnAHborTODO ALI GALI TAbpsZHAborMANCHU ALI GALI GHA",
     "bpuNGAbpuCAbpuJHAbpuTTAbpuDDHAbpuTAbpuDHAbpuSSAbpuCYAbpuZHAbpvAborALI GALI HALF UbpsYAborMANCHU ",
     "ALI GALI BHAborALI GALI DAGALGAborMANCHU ALI GALI LHAgCANADIAN SYLLABICS OYbotAYbouAYbotWAYbotPO",
     "YbouAYbouWOYbotTAYbotKAYbouWAYbotMAYbotNOYbouAYbotLAYbotSOYbouAYbouHOYbovAYbovWOYbotYOYbouAYbotR",
     "AYbotNWIbotOJIBWAY NWIbotNWIIbotOJIBWAY NWIIbotNWObotOJIBWAY NWObotNWOObotOJIBWAY NWOObotRWEEbov",
     "IbowIbovObowObovAbotOJIBWAY PbpoTbpoKbpoCbpoMbpoNbpoSbppHbotEASTERN WbotWESTERN WbotFINAL SMALL ",
     "RINGbozRAISED DOTbotR-CREE RWEbotWEST-CREE LOObprAAbotTHWEbowAbouTHWEbowOObowAAbouLHWEbowOObotSA",
     "YISI SHWEbppOObpnHOObotCARRIER GWUbpoDENE GEEbpoGAAbppWAbotSAYISI JUUbotCARRIER JWAbotBEAVER DEN",
     "E LbpsRbotCARRIER DENTAL SlLIMBU VOWEL-CARRIER LETTERbtLETTER KAbooHAbonGAbooHAbonNGAbonCAbooHAb",
     "onJAbooHAbonYANbonTAbooHAbonDAbooHAbonNAbonPAbooHAbonBAbooHAbonMAbonYAbonRAbonLAbonWAbonSHAbooSA",
     "booAbonHAbonGYANbonTRActVOWEL SIGN AborIborUborEEborAIborOOborAUborEborObtSUBJOINED LETTER YAbox",
     "RAboxWAfuMALL LETTER KAbotNGAbotANUSVARAbotTAbotNAbotPAbotMAbotRAbotLAbuIGN MUKPHRENGbyKEMPHRENG",
     "bySA-IfyLOOetEXCLAMATION MARKbtQUESTION MARKbtDIGIT ZERObzONEbzTWObonHREEbzFOURbonIVEbzSIXbonEVE",
     "NbzEIGHTbzNINEbTAI LE LETTER KAbooXAbooNGAbooTSAbooSAbooYAbooTAbopHAbooLAbooPAbopHAbooMAbooFAboo",
     "VAbooHAbooQAbooKHAbooTSHAbooNAbooAbooIbooEEbopHbooUbooOObopbooUEbooEbooAUEbopIdooTONE-2bot3bot4b",
     "ot5bot6mNEW TAI LUE LETTER HIGH QAbotLOW QAbotHIGH KAboyXAboyNGAbotLOW KAboxXAboxNGAbotHIGH TSAb",
     "oySAboyYAbotLOW TSAboxSAboxYAbotHIGH TAbozHAboyNAbotLOW TAboyHAboxNAbotHIGH PAbozHAboyMAbotLOW P",
     "AboyHAboxMAbotHIGH FAboyVAboyLAbotLOW FAboxVAboxLAbotHIGH HAboyDAboyBAbotLOW HAboxDAboxBAbotHIGH",
     " KVAboyXVAbotLOW KVAboxXVAbotHIGH SUAbotLOW SUAfzVOWEL SIGN VOWEL SHORTENERboxAAboxIIboxUboyUbox",
     "EboxAEboxOboyAboxUEboxAYboyAYboxUYboxOYboyAYboxUEYboxIYbzLETTER FINAL VbozNGbpnbozMbozKbozDbozBb",
     "zTONE MARK-1bow2hzDIGIT ZERObosONEbosTWObotHREEbosFOURbotIVEbosSIXbotEVENbosEIGHTbosNINEbzTHAM D",
     "IGIT ONEezSIGN LAEbouVbKHMER SYMBOL PATHAMASATbonMUOY KOETbonPII KOETbonBEI KOETbooUON KOETbonPR",
     "AM KOETbor-MUOY KOETbosPII KOETbosBEI KOETbotUON KOETbonDAP KOETboq-MUOY KOETborPII KOETborBEI K",
     "OETbosUON KOETborPRAM KOETbonTUTEYASATbonMUOY ROCbonPII ROCbonBEI ROCbooUON ROCbonPRAM ROCbor-MU",
     "OY ROCbosPII ROCbosBEI ROCbotUON ROCbonDAP ROCboq-MUOY ROCborPII ROCborBEI ROCbosUON ROCborPRAM ",
     "ROCbBUGINESE LETTER KAboqGAboqNGAbosKAboqPAboqBAboqMAborPAboqTAboqDAboqNAborRAboqCAboqJAboqNYAbo",
     "sCAboqYAboqRAboqLAboqVAboqSAboqAboqHAbwVOWEL SIGN IbouUbouEbouObouAEdwPALLAWAbwEND OF SECTIONbTA",
     "I THAM LETTER HIGH KAbowHAbowXAboqLOW KAbovXAbovHAboqNGAboqHIGH CAbowHAboqLOW CAbouSAbouCHAboqNY",
     "AboqRATAboqHIGH RATHAboqDAboqLOW RATHAboqRANAboqHIGH TAbowHAboqLOW TAbovHAboqNAboqBAboqHIGH PAbo",
     "wHAbovFAboqLOW PAbouFAbouPHAboqMAboqLOW YAboqHIGH YAboqRAborUEboqLAborUEboqWAboqHIGH SHAbowSAbow",
     "AbovHAboqLLAboqAboqLOW HAboqIborIboqUborUboqEEboqOOboqLAEboqGREAT SAbwCONSONANT SIGN MEDIAL RAbp",
     "sLAboyLA TANG LAIbwSIGN MAI KANG LAIbwCONSONANT SIGN FINAL NGAboyLOW PAboyHIGH RATHA OR LOW PAbo",
     "yMAboyBAboySAcwSIGN SAKOTbwVOWEL SIGN AbouMAI SATbouAAbouTALL AAbouIbovIbouUEbovUEbovbovUbouObov",
     "A BELOWbovYbouEbouAEbouOObouAIbouTHAM AIbouOA ABOVEbwSIGN MAI KANGbooTONE-1bot2booKHUEN TONE-3bo",
     "z4boz5booRA HAAMbooMAI SAMbooKHUEN-LUE KARANdwCOMBINING CRYPTOGRAMMIC DOTbwHORA DIGIT ZERObouONE",
     "bouTWObovHREEbouFOURbovIVEbouSIXbovEVENbouEIGHTbouNINEhwTHAM DIGIT ZERObouONEbouTWObovHREEbouFOU",
     "RbovIVEbouSIXbovEVENbouEIGHTbouNINEhwSIGN WIANGbotWAAKbooSAWANbooKEOWbooHOYbooDOKMAIbooREVERSED ",
     "ROTATED RANAbooMAI YAMOKbooKAANbosKUUbooSATKAANbovKUUbooHANGbooCAANGdCOMBINING DOUBLED CIRCUMFLE",
     "X ACCENTbyIAERESIS-RINGbxINFINITYbxDOWNWARDS ARROWbxTRIPLE DOTbxX-X BELOWbxWIGGLY LINE BELOWbxOP",
     "EN MARK BELOWbxDOUBLE OPEN MARK BELOWbxLIGHT CENTRALIZATION STROKE BELOWbxSTRONG CENTRALIZATION ",
     "STROKE BELOWbxPARENTHESES ABOVEbxDOUBLE PARENTHESES ABOVEbxPARENTHESES BELOWbowOVERLAYbxLATIN SM",
     "ALL LETTER W BELOWbpqTURNED W BELOWbyEFT PARENTHESIS ABOVE LEFTbxRIGHT PARENTHESIS ABOVE RIGHTbx",
     "LEFT PARENTHESIS BELOW LEFTbxRIGHT PARENTHESIS BELOW RIGHTbxSQUARE BRACKETS ABOVEbxNUMBER SIGN A",
     "BOVEbxINVERTED DOUBLE ARCH ABOVEbxPLUS SIGN ABOVEbxDOUBLE PLUS SIGN ABOVEbpoBELOWbxTRIPLE ACUTE ",
     "ACCENTbxLATIN SMALL LETTER INSULAR GbpyRbpyTdlBALINESE SIGN ULU RICEMbosCANDRAbooCECEKbooSURANGb",
     "ooBISAHbwLETTER AKARAbov TEDUNGboqIKARAbov TEDUNGboqUKARAbov TEDUNGboqRA REPAbox TEDUNGboqLA LEN",
     "GAboy TEDUNGboqEKARAboqAIKARAboqOKARAbov TEDUNGboqKAbos MAHAPRANAboqGAbos GORAboqNGAboqCAbos LAC",
     "AboqJAbos JERAboqNYAboqTA LATIKbotMURDA MAHAPRANAboqDA MURDA ALPAPRANAbozMAHAPRANAboqNA RAMBATbo",
     "qTAbos TAWAboqDAbos MADUboqNAboqPAbos KAPALboqBAbos KEMBANGboqMAboqYAboqRAboqLAboqWAboqSA SAGAbo",
     "vPAbosboqHAbwSIGN REREKANbwVOWEL SIGN TEDUNGbouULUbox SARIbouSUKUboy ILUTbouRA REPAbpo TEDUNGbou",
     "LA LENGAbpp TEDUNGbouTALINGbpn REPAbpoTEDUNGbpoREPA TEDUNGbouPEPETboz TEDUNGbwADEG ADEGbwLETTER ",
     "KAF SASAKborHOT SASAKboqTZIR SASAKboqEF SASAKboqVE SASAKboqZAL SASAKboqASYURA SASAKborRCHAIC JNY",
     "AewDIGIT ZERObopONEbopTWOboqHREEbopFOURboqIVEbopSIXboqEVENbopEIGHTbopNINEbwPANTIbyMADAbwWINDUbwC",
     "ARIK PAMUNGKAHbopSIKIbopPARERENbwPAMENENGbwMUSICAL SYMBOL DONGbozENGbozUNGbozANGbpp SURANGbozING",
     "bozAENGbozEUNGbozAINGbpnNG GEDEboyCOMBINING TEGEHbpvENDEPbpvKEMPULbpzLIbpvJEGOGANbpvKEMPUL WITH ",
     "JEGOGANbpzLI WITH JEGOGANbpvBENDEbpvGONGboyRIGHT-HAND OPEN DUGbqpAGbpwCLOSED TUKbqrAKboyLEFT-HAN",
     "D OPEN PANGbqoUNGbpvCLOSED PLAKbqrUKbpvOPEN PINGbwPANTI LANTANGbyMADA LANTANGcSUNDANESE SIGN PAN",
     "YECEKbosGLAYARbotWISADbxLETTER AborIborUborAEborOborEbosUborKAborQAborGAborNGAborCAborJAborZAbor",
     "NYAborTAborDAborNAborPAborFAborVAborBAborMAborYAborRAborLAborWAborSAborXAborHAbxCONSONANT SIGN P",
     "AMINGKALbpoNYAKRAbpqIKUbxVOWEL SIGN PANGHULUboyYUKUboyAELAENGboyOLONGboxMEPETboxNEULEUNGbxSIGN P",
     "AMAAEHbopVIRAMAbxCONSONANT SIGN PASANGAN MAbpvWAbxLETTER KHAborSYAbxDIGIT ZEROboqONEboqTWOborHRE",
     "EboqFOURborIVEboqSIXborEVENboqEIGHTboqNINEbxAVAGRAHAbxLETTER REUborLEUborBHAborFINAL KboxMbBATAK",
     " LETTER AbonSIMALUNGUN AbonHAbonSIMALUNGUN HAbonMANDAILING HAbonBAbonKARO BAbonPAbonSIMALUNGUN P",
     "AbonNAbonMANDAILING NAbonWAbonSIMALUNGUN WAbonPAKPAK WAbonGAbonSIMALUNGUN GAbonJAbonDAbonRAbonSI",
     "MALUNGUN RAbonMAbonSIMALUNGUN MAbooOUTHERN TAbonNORTHERN TAbonSAbooIMALUNGUN SAbonMANDAILING SAb",
     "onYAbonSIMALUNGUN YAbonNGAbonLAbonSIMALUNGUN LAbonNYAbonCAbonNDAbonMBAbonIbonUbtSIGN TOMPIbtVOWE",
     "L SIGN EborPAKPAK EborEEborIborKARO IborOborKARO OborUbos FOR SIMALUNGUN SAbtCONSONANT SIGN NGbo",
     "vHbtPANGOLATbwONGONANjtSYMBOL BINDU NA METEKbotPINARBORASbotJUDULbotPANGOLATbLEPCHA LETTER KAbop",
     "LAbopHAbooGAbopLAbooNGAbooCAbopHAbooJAbooNYAbooTAbopHAbooDAbooNAbooPAbopLAbopHAbooFAbopLAbooBAbo",
     "pLAbooMAbopLAbooTSAboqHAbooDZAbooYAbooRAbooLAbooHAbopLAbooVAbooSAbopHAbooWAbooAbuSUBJOINED LETTE",
     "R YAboyRAbuVOWEL SIGN AAbosIbosObotObosUbotUbosEbuCONSONANT SIGN KbowMbowLbowNbowPbowRbowTbowNYI",
     "N-DObowKANGbuSIGN RANbzNUKTAeuPUNCTUATION TA-ROLbotNYET THYOOM TA-ROLbotCER-WAbotTSHOOK CER-WAbo",
     "zbuDIGIT ZERObonONEbonTWObooHREEbonFOURbooIVEbonSIXbooEVENbonEIGHTbonNINEeuLETTER TTAboqHAbooDDA",
     "bOL CHIKI DIGIT ZERObopONEbopTWOboqHREEbopFOURboqIVEbopSIXboqEVENbopEIGHTbopNINEbwLETTER LAboqAT",
     "borGborNGborLboqLAAboqAAKbosJbosMbosWboqLIboqISborHborNYborRboqLUboqUCborDborNNborYboqLEboqEPbor",
     "DDborNborRRboqLOboqOTTborBborVborHbwMU TTUDDAGbwGAAHLAA TTUDDAAGbwMU-GAAHLAA TTUDDAAGbwRELAAbwPH",
     "AARKAAbwAHADbwPUNCTUATION MUCAADbovDOUBLE MUCAADbCYRILLIC SMALL LETTER ROUNDED VEbowLONG-LEGGED ",
     "DEbowNARROW ObowWIDE ESbowTALL TEboxHREE-LEGGED TEboxALL HARD SIGNbpoYATbowUNBLENDED UKiGEORGIAN",
     " MTAVRULI CAPITAL LETTER ANbpuBANbpuGANbpuDONbpuENbpuVINbpuZENbpuTANbpuINbpuKANbpuLASbpuMANbpuNA",
     "RbpuONbpuPARbpuZHARbpuRAEbpuSANbpuTARbpuUNbpuPHARbpuKHARbpuGHANbpuQARbpuSHINbpuCHINbpvANbpuJILbp",
     "uCILbpvHARbpuXANbpuJHANbpuHAEbpvEbpvIEbpuWEbpuHARbpvOEbpuFIbpuYNbpuELIFIbpuTURNED GANbpuAINdpvEN",
     "bpuHARD SIGNbpuLABIAL SIGNbSUNDANESE PUNCTUATION BINDU SURYAbppPANGLONGbpqURNAMAbppCAKRAbppLEU S",
     "ATANGAbppKA SATANGAbppDA SATANGAbppBA SATANGAjVEDIC TONE KARSHANAbySHARAbyPRENKHAbtSIGN NIHSHVAS",
     "AbyYAJURVEDIC MIDLINE SVARITAbtTONE YAJURVEDIC AGGRAVATED INDEPENDENT SVARITAbowINDEPENDENT SVAR",
     "ITAbowKATHAKA INDEPENDENT SVARITAbyCANDRA BELOWbyYAJURVEDIC KATHAKA INDEPENDENT SVARITA SCHROEDE",
     "RbyDOUBLE SVARITAbyTRIPLE SVARITAbyKATHAKA ANUDATTAbyDOT BELOWbyTWO DOTS BELOWbzHREE DOTS BELOWb",
     "yRIGVEDIC KASHMIRI INDEPENDENT SVARITAbyATHARVAVEDIC INDEPENDENT SVARITAbtSIGN VISARGA SVARITAbo",
     "tUDATTAbyREVERSED VISARGA UDATTAbyVISARGA ANUDATTAbyREVERSED VISARGA ANUDATTAbyVISARGA UDATTA WI",
     "TH TAILbotANUDATTA WITH TAILbyANUSVARA ANTARGOMUKHAbouBAHIRGOMUKHAbouVAMAGOMUKHAbps WITH TAILbyT",
     "IRYAKbyHEXIFORM LONG ANUSVARAbyLONG ANUSVARAbyRTHANG LONG ANUSVARAbyANUSVARA UBHAYATO MUKHAbzRDH",
     "AVISARGAbyROTATED ARDHAVISARGAbtTONE CANDRA ABOVEbtSIGN JIHVAMULIYAbyUPADHMANIYAbyATIKRAMAbtTONE",
     " RING ABOVEbyDOUBLE RING ABOVEbtSIGN DOUBLE ANUSVARA ANTARGOMUKHAgLATIN LETTER SMALL CAPITAL Abp",
     "pEbtSMALL LETTER TURNED AEbtLETTER SMALL CAPITAL BARRED BbpoCbpoDbpoETHbppbtSMALL LETTER TURNED ",
     "OPEN EbpnIbtLETTER SMALL CAPITAL JbpoKbpoL WITH STROKEbpoMbpoREVERSED NbpoObppPEN ObtSMALL LETTE",
     "R SIDEWAYS ObpqPEN Obpq WITH STROKEbotTURNED OEbtLETTER SMALL CAPITAL OUbtSMALL LETTER TOP HALF ",
     "ObotBOTTOM HALF ObtLETTER SMALL CAPITAL PbpoREVERSED RbpoTURNED RbppbpoUbtSMALL LETTER SIDEWAYS ",
     "UbppDIAERESIZED UbppTURNED MbtLETTER SMALL CAPITAL VbpoWbpoZbpoEZHbonVOICED LARYNGEAL SPIRANTbon",
     "AINbGREEK LETTER SMALL CAPITAL GAMMAbpoLAMDAbpoPIbpoRHObpoPSIbCYRILLIC LETTER SMALL CAPITAL ELbM",
     "ODIFIER LETTER CAPITAL AbozEboyBbozARRED BboyDboyEboyREVERSED EboyGboyHboyIboyJboyKboyLboyMboyNb",
     "oyREVERSED NboyObozUboyPboyRboyTboyUboyWboqSMALL AbowTURNED AbowALPHAbowTURNED AEbowBbowDbowEbow",
     "SCHWAbowOPEN EbowTURNED OPEN EbowGbowTURNED IbowKbowMbowENGbowOboxPEN ObowTOP HALF ObowBOTTOM HA",
     "LF ObowPbowTbowUbowSIDEWAYS UbowTURNED MbowVbowAINbowBETAbowGREEK GAMMAbowDELTAbowGREEK PHIbowCH",
     "IbLATIN SUBSCRIPT SMALL LETTER IbpqRbpqUbpqVbGREEK SUBSCRIPT SMALL LETTER BETAbpqGAMMAbpqRHObpqP",
     "HIbpqCHIbLATIN SMALL LETTER UEbotB WITH MIDDLE TILDEbotD WITH MIDDLE TILDEbotF WITH MIDDLE TILDE",
     "botM WITH MIDDLE TILDEbotN WITH MIDDLE TILDEbotP WITH MIDDLE TILDEbotR WITH MIDDLE TILDEbpnFISHH",
     "OOK AND MIDDLE TILDEbotS WITH MIDDLE TILDEbotT WITH MIDDLE TILDEbotZ WITH MIDDLE TILDEbotTURNED ",
     "GbMODIFIER LETTER CYRILLIC ENbLATIN SMALL LETTER INSULAR GbotTH WITH STRIKETHROUGHbzCAPITAL LETT",
     "ER I WITH STROKEbzLETTER IOTA WITH STROKEbotP WITH STROKEbzCAPITAL LETTER U WITH STROKEbzLETTER ",
     "UPSILON WITH STROKEbotB WITH PALATAL HOOKbotD WITH PALATAL HOOKbotF WITH PALATAL HOOKbotG WITH P",
     "ALATAL HOOKbotK WITH PALATAL HOOKbotL WITH PALATAL HOOKbotM WITH PALATAL HOOKbotN WITH PALATAL H",
     "OOKbotP WITH PALATAL HOOKbotR WITH PALATAL HOOKbotS WITH PALATAL HOOKbotESH WITH PALATAL HOOKbot",
     "V WITH PALATAL HOOKbotX WITH PALATAL HOOKbotZ WITH PALATAL HOOKbotA WITH RETROFLEX HOOKbouLPHA W",
     "ITH RETROFLEX HOOKbotD WITH HOOK AND TAILbotE WITH RETROFLEX HOOKbotOPEN E WITH RETROFLEX HOOKbo",
     "tREVERSED OPEN E WITH RETROFLEX HOOKbotSCHWA WITH RETROFLEX HOOKbotI WITH RETROFLEX HOOKbotOPEN ",
     "O WITH RETROFLEX HOOKbotESH WITH RETROFLEX HOOKbotU WITH RETROFLEX HOOKbotEZH WITH RETROFLEX HOO",
     "KbMODIFIER LETTER SMALL TURNED ALPHAbowCbox WITH CURLbowETHbowREVERSED OPEN EbowFbowDOTLESS J WI",
     "TH STROKEbowSCRIPT GbowTURNED HbowI WITH STROKEboxOTAbowCAPITAL Ibps WITH STROKEbowJ WITH CROSSE",
     "D-TAILbowL WITH RETROFLEX HOOKbpqPALATAL HOOKbowCAPITAL LbowM WITH HOOKbowTURNED M WITH LONG LEG",
     "bowN WITH LEFT HOOKbpqRETROFLEX HOOKbowCAPITAL NbowBARRED ObowPHIbowS WITH HOOKbowESHbowT WITH P",
     "ALATAL HOOKbowU BARboxPSILONbowCAPITAL UbowV WITH HOOKbowTURNED VbowZbox WITH RETROFLEX HOOKbpqC",
     "URLbowEZHbowTHETAbCOMBINING DOTTED GRAVE ACCENTborACUTE ACCENTbxSNAKE BELOWbyUSPENSION MARKbxMAC",
     "RON-ACUTEbxGRAVE-MACRONbxMACRON-GRAVEbxACUTE-MACRONbxGRAVE-ACUTE-GRAVEbxACUTE-GRAVE-ACUTEbxLATIN",
     " SMALL LETTER R BELOWbxBREVE-MACRONbxMACRON-BREVEbxDOUBLE CIRCUMFLEX ABOVEbxOGONEK ABOVEbxZIGZAG",
     " BELOWbxIS BELOWbxUR ABOVEbyS ABOVEbxLATIN SMALL LETTER FLATTENED OPEN A ABOVEbpqAEbprObprVbpqC ",
     "CEDILLAbpqINSULAR DbpqETHbpqGboqLETTER SMALL CAPITAL GboqSMALL LETTER KbpqLboqLETTER SMALL CAPIT",
     "AL LbpyMboqSMALL LETTER NboqLETTER SMALL CAPITAL NbpyRboqSMALL LETTER R ROTUNDAbpqSbpqLONG SbpqZ",
     "bpqALPHAbpqBbprETAbpqSCHWAbpqFbpqL WITH DOUBLE MIDDLE TILDEbpqO WITH LIGHT CENTRALIZATION STROKE",
     "bpqPbpqESHbpqU WITH LIGHT CENTRALIZATION STROKEbpqWbpqA WITH DIAERESISbpqO WITH DIAERESISbpqU WI",
     "TH DIAERESISbxUP TACK ABOVEbxKAVYKA ABOVE RIGHTboxLEFTbxDOT ABOVE LEFTbxWIDE INVERTED BRIDGE BEL",
     "OWbxDOT BELOW LEFTbyELETION MARKbyOUBLE INVERTED BREVE BELOWbxALMOST EQUAL TO BELOWbxLEFT ARROWH",
     "EAD ABOVEbxRIGHT ARROWHEAD AND DOWN ARROWHEAD BELOWbLATIN CAPITAL LETTER A WITH RING BELOWbtSMAL",
     "L LETTER A WITH RING BELOWbtCAPITAL LETTER B WITH DOT ABOVEbtSMALL LETTER B WITH DOT ABOVEbtCAPI",
     "TAL LETTER B WITH DOT BELOWbtSMALL LETTER B WITH DOT BELOWbtCAPITAL LETTER B WITH LINE BELOWbtSM",
     "ALL LETTER B WITH LINE BELOWbtCAPITAL LETTER C WITH CEDILLA AND ACUTEbtSMALL LETTER C WITH CEDIL",
     "LA AND ACUTEbtCAPITAL LETTER D WITH DOT ABOVEbtSMALL LETTER D WITH DOT ABOVEbtCAPITAL LETTER D W",
     "ITH DOT BELOWbtSMALL LETTER D WITH DOT BELOWbtCAPITAL LETTER D WITH LINE BELOWbtSMALL LETTER D W",
     "ITH LINE BELOWbtCAPITAL LETTER D WITH CEDILLAbtSMALL LETTER D WITH CEDILLAbtCAPITAL LETTER D WIT",
     "H CIRCUMFLEX BELOWbtSMALL LETTER D WITH CIRCUMFLEX BELOWbtCAPITAL LETTER E WITH MACRON AND GRAVE",
     "btSMALL LETTER E WITH MACRON AND GRAVEbtCAPITAL LETTER E WITH MACRON AND ACUTEbtSMALL LETTER E W",
     "ITH MACRON AND ACUTEbtCAPITAL LETTER E WITH CIRCUMFLEX BELOWbtSMALL LETTER E WITH CIRCUMFLEX BEL",
     "OWbtCAPITAL LETTER E WITH TILDE BELOWbtSMALL LETTER E WITH TILDE BELOWbtCAPITAL LETTER E WITH CE",
     "DILLA AND BREVEbtSMALL LETTER E WITH CEDILLA AND BREVEbtCAPITAL LETTER F WITH DOT ABOVEbtSMALL L",
     "ETTER F WITH DOT ABOVEbtCAPITAL LETTER G WITH MACRONbtSMALL LETTER G WITH MACRONbtCAPITAL LETTER",
     " H WITH DOT ABOVEbtSMALL LETTER H WITH DOT ABOVEbtCAPITAL LETTER H WITH DOT BELOWbtSMALL LETTER ",
     "H WITH DOT BELOWbtCAPITAL LETTER H WITH DIAERESISbtSMALL LETTER H WITH DIAERESISbtCAPITAL LETTER",
     " H WITH CEDILLAbtSMALL LETTER H WITH CEDILLAbtCAPITAL LETTER H WITH BREVE BELOWbtSMALL LETTER H ",
     "WITH BREVE BELOWbtCAPITAL LETTER I WITH TILDE BELOWbtSMALL LETTER I WITH TILDE BELOWbtCAPITAL LE",
     "TTER I WITH DIAERESIS AND ACUTEbtSMALL LETTER I WITH DIAERESIS AND ACUTEbtCAPITAL LETTER K WITH ",
     "ACUTEbtSMALL LETTER K WITH ACUTEbtCAPITAL LETTER K WITH DOT BELOWbtSMALL LETTER K WITH DOT BELOW",
     "btCAPITAL LETTER K WITH LINE BELOWbtSMALL LETTER K WITH LINE BELOWbtCAPITAL LETTER L WITH DOT BE",
     "LOWbtSMALL LETTER L WITH DOT BELOWbtCAPITAL LETTER L WITH DOT BELOW AND MACRONbtSMALL LETTER L W",
     "ITH DOT BELOW AND MACRONbtCAPITAL LETTER L WITH LINE BELOWbtSMALL LETTER L WITH LINE BELOWbtCAPI",
     "TAL LETTER L WITH CIRCUMFLEX BELOWbtSMALL LETTER L WITH CIRCUMFLEX BELOWbtCAPITAL LETTER M WITH ",
     "ACUTEbtSMALL LETTER M WITH ACUTEbtCAPITAL LETTER M WITH DOT ABOVEbtSMALL LETTER M WITH DOT ABOVE",
     "btCAPITAL LETTER M WITH DOT BELOWbtSMALL LETTER M WITH DOT BELOWbtCAPITAL LETTER N WITH DOT ABOV",
     "EbtSMALL LETTER N WITH DOT ABOVEbtCAPITAL LETTER N WITH DOT BELOWbtSMALL LETTER N WITH DOT BELOW",
     "btCAPITAL LETTER N WITH LINE BELOWbtSMALL LETTER N WITH LINE BELOWbtCAPITAL LETTER N WITH CIRCUM",
     "FLEX BELOWbtSMALL LETTER N WITH CIRCUMFLEX BELOWbtCAPITAL LETTER O WITH TILDE AND ACUTEbtSMALL L",
     "ETTER O WITH TILDE AND ACUTEbtCAPITAL LETTER O WITH TILDE AND DIAERESISbtSMALL LETTER O WITH TIL",
     "DE AND DIAERESISbtCAPITAL LETTER O WITH MACRON AND GRAVEbtSMALL LETTER O WITH MACRON AND GRAVEbt",
     "CAPITAL LETTER O WITH MACRON AND ACUTEbtSMALL LETTER O WITH MACRON AND ACUTEbtCAPITAL LETTER P W",
     "ITH ACUTEbtSMALL LETTER P WITH ACUTEbtCAPITAL LETTER P WITH DOT ABOVEbtSMALL LETTER P WITH DOT A",
     "BOVEbtCAPITAL LETTER R WITH DOT ABOVEbtSMALL LETTER R WITH DOT ABOVEbtCAPITAL LETTER R WITH DOT ",
     "BELOWbtSMALL LETTER R WITH DOT BELOWbtCAPITAL LETTER R WITH DOT BELOW AND MACRONbtSMALL LETTER R",
     " WITH DOT BELOW AND MACRONbtCAPITAL LETTER R WITH LINE BELOWbtSMALL LETTER R WITH LINE BELOWbtCA",
     "PITAL LETTER S WITH DOT ABOVEbtSMALL LETTER S WITH DOT ABOVEbtCAPITAL LETTER S WITH DOT BELOWbtS",
     "MALL LETTER S WITH DOT BELOWbtCAPITAL LETTER S WITH ACUTE AND DOT ABOVEbtSMALL LETTER S WITH ACU",
     "TE AND DOT ABOVEbtCAPITAL LETTER S WITH CARON AND DOT ABOVEbtSMALL LETTER S WITH CARON AND DOT A",
     "BOVEbtCAPITAL LETTER S WITH DOT BELOW AND DOT ABOVEbtSMALL LETTER S WITH DOT BELOW AND DOT ABOVE",
     "btCAPITAL LETTER T WITH DOT ABOVEbtSMALL LETTER T WITH DOT ABOVEbtCAPITAL LETTER T WITH DOT BELO",
     "WbtSMALL LETTER T WITH DOT BELOWbtCAPITAL LETTER T WITH LINE BELOWbtSMALL LETTER T WITH LINE BEL",
     "OWbtCAPITAL LETTER T WITH CIRCUMFLEX BELOWbtSMALL LETTER T WITH CIRCUMFLEX BELOWbtCAPITAL LETTER",
     " U WITH DIAERESIS BELOWbtSMALL LETTER U WITH DIAERESIS BELOWbtCAPITAL LETTER U WITH TILDE BELOWb",
     "tSMALL LETTER U WITH TILDE BELOWbtCAPITAL LETTER U WITH CIRCUMFLEX BELOWbtSMALL LETTER U WITH CI",
     "RCUMFLEX BELOWbtCAPITAL LETTER U WITH TILDE AND ACUTEbtSMALL LETTER U WITH TILDE AND ACUTEbtCAPI",
     "TAL LETTER U WITH MACRON AND DIAERESISbtSMALL LETTER U WITH MACRON AND DIAERESISbtCAPITAL LETTER",
     " V WITH TILDEbtSMALL LETTER V WITH TILDEbtCAPITAL LETTER V WITH DOT BELOWbtSMALL LETTER V WITH D",
     "OT BELOWbtCAPITAL LETTER W WITH GRAVEbtSMALL LETTER W WITH GRAVEbtCAPITAL LETTER W WITH ACUTEbtS",
     "MALL LETTER W WITH ACUTEbtCAPITAL LETTER W WITH DIAERESISbtSMALL LETTER W WITH DIAERESISbtCAPITA",
     "L LETTER W WITH DOT ABOVEbtSMALL LETTER W WITH DOT ABOVEbtCAPITAL LETTER W WITH DOT BELOWbtSMALL",
     " LETTER W WITH DOT BELOWbtCAPITAL LETTER X WITH DOT ABOVEbtSMALL LETTER X WITH DOT ABOVEbtCAPITA",
     "L LETTER X WITH DIAERESISbtSMALL LETTER X WITH DIAERESISbtCAPITAL LETTER Y WITH DOT ABOVEbtSMALL",
     " LETTER Y WITH DOT ABOVEbtCAPITAL LETTER Z WITH CIRCUMFLEXbtSMALL LETTER Z WITH CIRCUMFLEXbtCAPI",
     "TAL LETTER Z WITH DOT BELOWbtSMALL LETTER Z WITH DOT BELOWbtCAPITAL LETTER Z WITH LINE BELOWbtSM",
     "ALL LETTER Z WITH LINE BELOWbotH WITH LINE BELOWbotT WITH DIAERESISbotW WITH RING ABOVEbotY WITH",
     " RING ABOVEbotA WITH RIGHT HALF RINGbotLONG S WITH DOT ABOVEbptIAGONAL STROKEbpsHIGH STROKEbtCAP",
     "ITAL LETTER SHARP SbtSMALL LETTER DELTAbtCAPITAL LETTER A WITH DOT BELOWbtSMALL LETTER A WITH DO",
     "T BELOWbtCAPITAL LETTER A WITH HOOK ABOVEbtSMALL LETTER A WITH HOOK ABOVEbtCAPITAL LETTER A WITH",
     " CIRCUMFLEX AND ACUTEbtSMALL LETTER A WITH CIRCUMFLEX AND ACUTEbtCAPITAL LETTER A WITH CIRCUMFLE",
     "X AND GRAVEbtSMALL LETTER A WITH CIRCUMFLEX AND GRAVEbtCAPITAL LETTER A WITH CIRCUMFLEX AND HOOK",
     " ABOVEbtSMALL LETTER A WITH CIRCUMFLEX AND HOOK ABOVEbtCAPITAL LETTER A WITH CIRCUMFLEX AND TILD",
     "EbtSMALL LETTER A WITH CIRCUMFLEX AND TILDEbtCAPITAL LETTER A WITH CIRCUMFLEX AND DOT BELOWbtSMA",
     "LL LETTER A WITH CIRCUMFLEX AND DOT BELOWbtCAPITAL LETTER A WITH BREVE AND ACUTEbtSMALL LETTER A",
     " WITH BREVE AND ACUTEbtCAPITAL LETTER A WITH BREVE AND GRAVEbtSMALL LETTER A WITH BREVE AND GRAV",
     "EbtCAPITAL LETTER A WITH BREVE AND HOOK ABOVEbtSMALL LETTER A WITH BREVE AND HOOK ABOVEbtCAPITAL",
     " LETTER A WITH BREVE AND TILDEbtSMALL LETTER A WITH BREVE AND TILDEbtCAPITAL LETTER A WITH BREVE",
     " AND DOT BELOWbtSMALL LETTER A WITH BREVE AND DOT BELOWbtCAPITAL LETTER E WITH DOT BELOWbtSMALL ",
     "LETTER E WITH DOT BELOWbtCAPITAL LETTER E WITH HOOK ABOVEbtSMALL LETTER E WITH HOOK ABOVEbtCAPIT",
     "AL LETTER E WITH TILDEbtSMALL LETTER E WITH TILDEbtCAPITAL LETTER E WITH CIRCUMFLEX AND ACUTEbtS",
     "MALL LETTER E WITH CIRCUMFLEX AND ACUTEbtCAPITAL LETTER E WITH CIRCUMFLEX AND GRAVEbtSMALL LETTE",
     "R E WITH CIRCUMFLEX AND GRAVEbtCAPITAL LETTER E WITH CIRCUMFLEX AND HOOK ABOVEbtSMALL LETTER E W",
     "ITH CIRCUMFLEX AND HOOK ABOVEbtCAPITAL LETTER E WITH CIRCUMFLEX AND TILDEbtSMALL LETTER E WITH C",
     "IRCUMFLEX AND TILDEbtCAPITAL LETTER E WITH CIRCUMFLEX AND DOT BELOWbtSMALL LETTER E WITH CIRCUMF",
     "LEX AND DOT BELOWbtCAPITAL LETTER I WITH HOOK ABOVEbtSMALL LETTER I WITH HOOK ABOVEbtCAPITAL LET",
     "TER I WITH DOT BELOWbtSMALL LETTER I WITH DOT BELOWbtCAPITAL LETTER O WITH DOT BELOWbtSMALL LETT",
     "ER O WITH DOT BELOWbtCAPITAL LETTER O WITH HOOK ABOVEbtSMALL LETTER O WITH HOOK ABOVEbtCAPITAL L",
     "ETTER O WITH CIRCUMFLEX AND ACUTEbtSMALL LETTER O WITH CIRCUMFLEX AND ACUTEbtCAPITAL LETTER O WI",
     "TH CIRCUMFLEX AND GRAVEbtSMALL LETTER O WITH CIRCUMFLEX AND GRAVEbtCAPITAL LETTER O WITH CIRCUMF",
     "LEX AND HOOK ABOVEbtSMALL LETTER O WITH CIRCUMFLEX AND HOOK ABOVEbtCAPITAL LETTER O WITH CIRCUMF",
     "LEX AND TILDEbtSMALL LETTER O WITH CIRCUMFLEX AND TILDEbtCAPITAL LETTER O WITH CIRCUMFLEX AND DO",
     "T BELOWbtSMALL LETTER O WITH CIRCUMFLEX AND DOT BELOWbtCAPITAL LETTER O WITH HORN AND ACUTEbtSMA",
     "LL LETTER O WITH HORN AND ACUTEbtCAPITAL LETTER O WITH HORN AND GRAVEbtSMALL LETTER O WITH HORN ",
     "AND GRAVEbtCAPITAL LETTER O WITH HORN AND HOOK ABOVEbtSMALL LETTER O WITH HORN AND HOOK ABOVEbtC",
     "APITAL LETTER O WITH HORN AND TILDEbtSMALL LETTER O WITH HORN AND TILDEbtCAPITAL LETTER O WITH H",
     "ORN AND DOT BELOWbtSMALL LETTER O WITH HORN AND DOT BELOWbtCAPITAL LETTER U WITH DOT BELOWbtSMAL",
     "L LETTER U WITH DOT BELOWbtCAPITAL LETTER U WITH HOOK ABOVEbtSMALL LETTER U WITH HOOK ABOVEbtCAP",
     "ITAL LETTER U WITH HORN AND ACUTEbtSMALL LETTER U WITH HORN AND ACUTEbtCAPITAL LETTER U WITH HOR",
     "N AND GRAVEbtSMALL LETTER U WITH HORN AND GRAVEbtCAPITAL LETTER U WITH HORN AND HOOK ABOVEbtSMAL",
     "L LETTER U WITH HORN AND HOOK ABOVEbtCAPITAL LETTER U WITH HORN AND TILDEbtSMALL LETTER U WITH H",
     "ORN AND TILDEbtCAPITAL LETTER U WITH HORN AND DOT BELOWbtSMALL LETTER U WITH HORN AND DOT BELOWb",
     "tCAPITAL LETTER Y WITH GRAVEbtSMALL LETTER Y WITH GRAVEbtCAPITAL LETTER Y WITH DOT BELOWbtSMALL ",
     "LETTER Y WITH DOT BELOWbtCAPITAL LETTER Y WITH HOOK ABOVEbtSMALL LETTER Y WITH HOOK ABOVEbtCAPIT",
     "AL LETTER Y WITH TILDEbtSMALL LETTER Y WITH TILDEbtCAPITAL LETTER MIDDLE-WELSH LLbtSMALL LETTER ",
     "MIDDLE-WELSH LLbtCAPITAL LETTER MIDDLE-WELSH VbtSMALL LETTER MIDDLE-WELSH VbtCAPITAL LETTER Y WI",
     "TH LOOPbtSMALL LETTER Y WITH LOOPbGREEK SMALL LETTER ALPHA WITH PSILIbprDASIAbprPSILI AND VARIAb",
     "prDASIA AND VARIAbprPSILI AND OXIAbprDASIA AND OXIAbprPSILI AND PERISPOMENIbprDASIA AND PERISPOM",
     "ENIbtCAPITAL LETTER ALPHA WITH PSILIbptDASIAbptPSILI AND VARIAbptDASIA AND VARIAbptPSILI AND OXI",
     "AbptDASIA AND OXIAbptPSILI AND PERISPOMENIbptDASIA AND PERISPOMENIbtSMALL LETTER EPSILON WITH PS",
     "ILIbptDASIAbptPSILI AND VARIAbptDASIA AND VARIAbptPSILI AND OXIAbptDASIA AND OXIAdtCAPITAL LETTE",
     "R EPSILON WITH PSILIbpvDASIAbpvPSILI AND VARIAbpvDASIA AND VARIAbpvPSILI AND OXIAbpvDASIA AND OX"]

def characterNameRecordsPart4 : String :=
  String.join
    ["IAdtSMALL LETTER ETA WITH PSILIbppDASIAbppPSILI AND VARIAbppDASIA AND VARIAbppPSILI AND OXIAbppD",
     "ASIA AND OXIAbppPSILI AND PERISPOMENIbppDASIA AND PERISPOMENIbtCAPITAL LETTER ETA WITH PSILIbprD",
     "ASIAbprPSILI AND VARIAbprDASIA AND VARIAbprPSILI AND OXIAbprDASIA AND OXIAbprPSILI AND PERISPOME",
     "NIbprDASIA AND PERISPOMENIbtSMALL LETTER IOTA WITH PSILIbpqDASIAbpqPSILI AND VARIAbpqDASIA AND V",
     "ARIAbpqPSILI AND OXIAbpqDASIA AND OXIAbpqPSILI AND PERISPOMENIbpqDASIA AND PERISPOMENIbtCAPITAL ",
     "LETTER IOTA WITH PSILIbpsDASIAbpsPSILI AND VARIAbpsDASIA AND VARIAbpsPSILI AND OXIAbpsDASIA AND ",
     "OXIAbpsPSILI AND PERISPOMENIbpsDASIA AND PERISPOMENIbtSMALL LETTER OMICRON WITH PSILIbptDASIAbpt",
     "PSILI AND VARIAbptDASIA AND VARIAbptPSILI AND OXIAbptDASIA AND OXIAdtCAPITAL LETTER OMICRON WITH",
     " PSILIbpvDASIAbpvPSILI AND VARIAbpvDASIA AND VARIAbpvPSILI AND OXIAbpvDASIA AND OXIAdtSMALL LETT",
     "ER UPSILON WITH PSILIbptDASIAbptPSILI AND VARIAbptDASIA AND VARIAbptPSILI AND OXIAbptDASIA AND O",
     "XIAbptPSILI AND PERISPOMENIbptDASIA AND PERISPOMENIctCAPITAL LETTER UPSILON WITH DASIAcqn AND VA",
     "RIAcqsOXIAcqsPERISPOMENIbtSMALL LETTER OMEGA WITH PSILIbprDASIAbprPSILI AND VARIAbprDASIA AND VA",
     "RIAbprPSILI AND OXIAbprDASIA AND OXIAbprPSILI AND PERISPOMENIbprDASIA AND PERISPOMENIbtCAPITAL L",
     "ETTER OMEGA WITH PSILIbptDASIAbptPSILI AND VARIAbptDASIA AND VARIAbptPSILI AND OXIAbptDASIA AND ",
     "OXIAbptPSILI AND PERISPOMENIbptDASIA AND PERISPOMENIbtSMALL LETTER ALPHA WITH VARIAbprOXIAbotEPS",
     "ILON WITH VARIAbptOXIAbouTA WITH VARIAbppOXIAbotIOTA WITH VARIAbpqOXIAbotOMICRON WITH VARIAbptOX",
     "IAbotUPSILON WITH VARIAbptOXIAbotOMEGA WITH VARIAbprOXIAdotALPHA WITH PSILI AND YPOGEGRAMMENIbpr",
     "DASIA AND YPOGEGRAMMENIbprPSILI AND VARIA AND YPOGEGRAMMENIbprDASIA AND VARIA AND YPOGEGRAMMENIb",
     "prPSILI AND OXIA AND YPOGEGRAMMENIbprDASIA AND OXIA AND YPOGEGRAMMENIbprPSILI AND PERISPOMENI AN",
     "D YPOGEGRAMMENIbprDASIA AND PERISPOMENI AND YPOGEGRAMMENIbtCAPITAL LETTER ALPHA WITH PSILI AND P",
     "ROSGEGRAMMENIbptDASIA AND PROSGEGRAMMENIbptPSILI AND VARIA AND PROSGEGRAMMENIbptDASIA AND VARIA ",
     "AND PROSGEGRAMMENIbptPSILI AND OXIA AND PROSGEGRAMMENIbptDASIA AND OXIA AND PROSGEGRAMMENIbptPSI",
     "LI AND PERISPOMENI AND PROSGEGRAMMENIbptDASIA AND PERISPOMENI AND PROSGEGRAMMENIbtSMALL LETTER E",
     "TA WITH PSILI AND YPOGEGRAMMENIbppDASIA AND YPOGEGRAMMENIbppPSILI AND VARIA AND YPOGEGRAMMENIbpp",
     "DASIA AND VARIA AND YPOGEGRAMMENIbppPSILI AND OXIA AND YPOGEGRAMMENIbppDASIA AND OXIA AND YPOGEG",
     "RAMMENIbppPSILI AND PERISPOMENI AND YPOGEGRAMMENIbppDASIA AND PERISPOMENI AND YPOGEGRAMMENIbtCAP",
     "ITAL LETTER ETA WITH PSILI AND PROSGEGRAMMENIbprDASIA AND PROSGEGRAMMENIbprPSILI AND VARIA AND P",
     "ROSGEGRAMMENIbprDASIA AND VARIA AND PROSGEGRAMMENIbprPSILI AND OXIA AND PROSGEGRAMMENIbprDASIA A",
     "ND OXIA AND PROSGEGRAMMENIbprPSILI AND PERISPOMENI AND PROSGEGRAMMENIbprDASIA AND PERISPOMENI AN",
     "D PROSGEGRAMMENIbtSMALL LETTER OMEGA WITH PSILI AND YPOGEGRAMMENIbprDASIA AND YPOGEGRAMMENIbprPS",
     "ILI AND VARIA AND YPOGEGRAMMENIbprDASIA AND VARIA AND YPOGEGRAMMENIbprPSILI AND OXIA AND YPOGEGR",
     "AMMENIbprDASIA AND OXIA AND YPOGEGRAMMENIbprPSILI AND PERISPOMENI AND YPOGEGRAMMENIbprDASIA AND ",
     "PERISPOMENI AND YPOGEGRAMMENIbtCAPITAL LETTER OMEGA WITH PSILI AND PROSGEGRAMMENIbptDASIA AND PR",
     "OSGEGRAMMENIbptPSILI AND VARIA AND PROSGEGRAMMENIbptDASIA AND VARIA AND PROSGEGRAMMENIbptPSILI A",
     "ND OXIA AND PROSGEGRAMMENIbptDASIA AND OXIA AND PROSGEGRAMMENIbptPSILI AND PERISPOMENI AND PROSG",
     "EGRAMMENIbptDASIA AND PERISPOMENI AND PROSGEGRAMMENIbtSMALL LETTER ALPHA WITH VRACHYbprMACRONbpr",
     "VARIA AND YPOGEGRAMMENIbprYPOGEGRAMMENIbprOXIA AND YPOGEGRAMMENIcprPERISPOMENIbqp AND YPOGEGRAMM",
     "ENIbtCAPITAL LETTER ALPHA WITH VRACHYbptMACRONbptVARIAbptOXIAbptPROSGEGRAMMENIbtKORONISbtPROSGEG",
     "RAMMENIbuSILIbuERISPOMENIbtDIALYTIKA AND PERISPOMENIbtSMALL LETTER ETA WITH VARIA AND YPOGEGRAMM",
     "ENIbppYPOGEGRAMMENIbppOXIA AND YPOGEGRAMMENIcppPERISPOMENIbqn AND YPOGEGRAMMENIbtCAPITAL LETTER ",
     "EPSILON WITH VARIAbpvOXIAbowTA WITH VARIAbprOXIAbprPROSGEGRAMMENIbtPSILI AND VARIAboqOXIAboqPERI",
     "SPOMENIbtSMALL LETTER IOTA WITH VRACHYbpqMACRONbpqDIALYTIKA AND VARIAbqrOXIAdpqPERISPOMENIbpqDIA",
     "LYTIKA AND PERISPOMENIbtCAPITAL LETTER IOTA WITH VRACHYbpsMACRONbpsVARIAbpsOXIActDASIA AND VARIA",
     "boqOXIAboqPERISPOMENIbtSMALL LETTER UPSILON WITH VRACHYbptMACRONbptDIALYTIKA AND VARIAbquOXIAbot",
     "RHO WITH PSILIbppDASIAbotUPSILON WITH PERISPOMENIbptDIALYTIKA AND PERISPOMENIbtCAPITAL LETTER UP",
     "SILON WITH VRACHYbpvMACRONbpvVARIAbpvOXIAbovRHO WITH DASIAbtDIALYTIKA AND VARIAbouOXIAbtVARIAdtS",
     "MALL LETTER OMEGA WITH VARIA AND YPOGEGRAMMENIbprYPOGEGRAMMENIbprOXIA AND YPOGEGRAMMENIcprPERISP",
     "OMENIbqp AND YPOGEGRAMMENIbtCAPITAL LETTER OMICRON WITH VARIAbpvOXIAboxEGA WITH VARIAbptOXIAbptP",
     "ROSGEGRAMMENIbtOXIAbtDASIAcEN QUADboM QUADboN SPACEboM SPACEbTHREE-PER-EM SPACEbFOUR-PER-EM SPAC",
     "EbSIX-PER-EM SPACEbFIGURE SPACEbPUNCTUATION SPACEbTHIN SPACEbHAIR SPACEbZERO WIDTH SPACEbyNON-JO",
     "INERbyJOINERbLEFT-TO-RIGHT MARKbRIGHT-TO-LEFT MARKbHYPHENbNON-BREAKING HYPHENbFIGURE DASHbEN DAS",
     "HboM DASHbHORIZONTAL BARbDOUBLE VERTICAL LINEbuLOW LINEbLEFT SINGLE QUOTATION MARKbRIGHT SINGLE ",
     "QUOTATION MARKbSINGLE LOW-9 QUOTATION MARKbuHIGH-REVERSED-9 QUOTATION MARKbLEFT DOUBLE QUOTATION",
     " MARKbRIGHT DOUBLE QUOTATION MARKbDOUBLE LOW-9 QUOTATION MARKbuHIGH-REVERSED-9 QUOTATION MARKboA",
     "GGERboOUBLE DAGGERbBULLETbTRIANGULAR BULLETbONE DOT LEADERbTWO DOT LEADERbHORIZONTAL ELLIPSISboY",
     "PHENATION POINTbLINE SEPARATORbPARAGRAPH SEPARATORbLEFT-TO-RIGHT EMBEDDINGbRIGHT-TO-LEFT EMBEDDI",
     "NGbPOP DIRECTIONAL FORMATTINGbLEFT-TO-RIGHT OVERRIDEbRIGHT-TO-LEFT OVERRIDEbNARROW NO-BREAK SPAC",
     "EbPER MILLE SIGNbrTEN THOUSAND SIGNboRIMEbDOUBLE PRIMEbTRIPLE PRIMEbREVERSED PRIMEbwDOUBLE PRIME",
     "bwTRIPLE PRIMEbCARETbSINGLE LEFT-POINTING ANGLE QUOTATION MARKbuRIGHT-POINTING ANGLE QUOTATION M",
     "ARKbREFERENCE MARKbDOUBLE EXCLAMATION MARKbINTERROBANGbOVERLINEbUNDERTIEbCHARACTER TIEboARET INS",
     "ERTION POINTbASTERISMbHYPHEN BULLETbFRACTION SLASHbLEFT SQUARE BRACKET WITH QUILLbRIGHT SQUARE B",
     "RACKET WITH QUILLbDOUBLE QUESTION MARKbQUESTION EXCLAMATION MARKbEXCLAMATION QUESTION MARKbTIRON",
     "IAN SIGN ETbREVERSED PILCROW SIGNbBLACK LEFTWARDS BULLETbtRIGHTWARDS BULLETbLOW ASTERISKbREVERSE",
     "D SEMICOLONbCLOSE UPbTWO ASTERISKS ALIGNED VERTICALLYbCOMMERCIAL MINUS SIGNbSWUNG DASHbINVERTED ",
     "UNDERTIEbFLOWER PUNCTUATION MARKbTHREE DOT PUNCTUATIONbQUADRUPLE PRIMEbFOUR DOT PUNCTUATIONboIVE",
     " DOT PUNCTUATIONbTWO DOT PUNCTUATIONbFOUR DOT MARKbDOTTED CROSSbTRICOLONbVERTICAL FOUR DOTSbMEDI",
     "UM MATHEMATICAL SPACEbWORD JOINERbFUNCTION APPLICATIONbINVISIBLE TIMESbxSEPARATORbxPLUScLEFT-TO-",
     "RIGHT ISOLATEbRIGHT-TO-LEFT ISOLATEbFIRST STRONG ISOLATEbPOP DIRECTIONAL ISOLATEbINHIBIT SYMMETR",
     "IC SWAPPINGbACTIVATE SYMMETRIC SWAPPINGbINHIBIT ARABIC FORM SHAPINGbACTIVATE ARABIC FORM SHAPING",
     "bNATIONAL DIGIT SHAPESboOMINAL DIGIT SHAPESbSUPERSCRIPT ZERObzLATIN SMALL LETTER IdzFOURbonIVEbz",
     "SIXbonEVENbzEIGHTbzNINEbzPLUS SIGNbzMINUSbzEQUALS SIGNbzLEFT PARENTHESISbzRIGHT PARENTHESISbzLAT",
     "IN SMALL LETTER NbpBSCRIPT ZERObxONEbxTWObyHREEbxFOURbyIVEbxSIXbyEVENbxEIGHTbxNINEbxPLUS SIGNbxM",
     "INUSbxEQUALS SIGNbxLEFT PARENTHESISbxRIGHT PARENTHESIScLATIN SUBSCRIPT SMALL LETTER AbpqEbpqObpq",
     "XbpqSCHWAbpqHbpqKbpqLbpqMbpqNbpqPbpqSbpqTeEURO-CURRENCY SIGNbCOLON SIGNboRUZEIRO SIGNbFRENCH FRA",
     "NC SIGNbLIRA SIGNbMILL SIGNbNAIRA SIGNbPESETA SIGNbRUPEE SIGNbWON SIGNbNEW SHEQEL SIGNbDONG SIGN",
     "bEURO SIGNbKIP SIGNbTUGRIK SIGNbDRACHMA SIGNbGERMAN PENNY SIGNbPESO SIGNbGUARANI SIGNbAUSTRAL SI",
     "GNbHRYVNIA SIGNbCEDI SIGNbLIVRE TOURNOIS SIGNbSPESMILO SIGNbTENGE SIGNbINDIAN RUPEE SIGNbTURKISH",
     " LIRA SIGNbNORDIC MARK SIGNbMANAT SIGNbRUBLE SIGNbLARI SIGNbBITCOIN SIGNbSOM SIGNbdCOMBINING LEF",
     "T HARPOON ABOVEbxRIGHT HARPOON ABOVEbxLONG VERTICAL LINE OVERLAYbxSHORT VERTICAL LINE OVERLAYbxA",
     "NTICLOCKWISE ARROW ABOVEbxCLOCKWISE ARROW ABOVEbxLEFT ARROW ABOVEbxRIGHT ARROW ABOVEbzNG OVERLAY",
     "bxCLOCKWISE RING OVERLAYbxANTICLOCKWISE RING OVERLAYbxTHREE DOTS ABOVEbxFOUR DOTS ABOVEbxENCLOSI",
     "NG CIRCLEbouSQUAREbouDIAMONDbouCIRCLE BACKSLASHbxLEFT RIGHT ARROW ABOVEbxENCLOSING SCREENbouKEYC",
     "APbouUPWARD POINTING TRIANGLEbxREVERSE SOLIDUS OVERLAYbxDOUBLE VERTICAL STROKE OVERLAYbxANNUITY ",
     "SYMBOLbxTRIPLE UNDERDOTbxWIDE BRIDGE ABOVEbxLEFTWARDS ARROW OVERLAYbyONG DOUBLE SOLIDUS OVERLAYb",
     "xRIGHTWARDS HARPOON WITH BARB DOWNWARDSbxLEFTWARDS HARPOON WITH BARB DOWNWARDSboo ARROW BELOWbxR",
     "IGHT ARROW BELOWbxASTERISK ABOVEbdACCOUNT OFboDDRESSED TO THE SUBJECTbDOUBLE-STRUCK CAPITAL CboE",
     "GREE CELSIUSbCENTRE LINE SYMBOLboARE OFbpDA UNAbEULER CONSTANTbSCRUPLEbDEGREE FAHRENHEITbSCRIPT ",
     "SMALL GbuCAPITAL HbBLACK-LETTER CAPITAL HbDOUBLE-STRUCK CAPITAL HbPLANCK CONSTANTbop OVER TWO PI",
     "bSCRIPT CAPITAL IbBLACK-LETTER CAPITAL IbSCRIPT CAPITAL LbuSMALL LbL B BAR SYMBOLbDOUBLE-STRUCK ",
     "CAPITAL NbNUMERO SIGNbSOUND RECORDING COPYRIGHTboCRIPT CAPITAL PbDOUBLE-STRUCK CAPITAL PbowQbSCR",
     "IPT CAPITAL RbBLACK-LETTER CAPITAL RbDOUBLE-STRUCK CAPITAL RbPRESCRIPTION TAKEbRESPONSEbSERVICE ",
     "MARKbTELEPHONE SIGNboRADE MARK SIGNbVERSICLEbDOUBLE-STRUCK CAPITAL ZbOUNCE SIGNboHM SIGNbINVERTE",
     "D OHM SIGNbBLACK-LETTER CAPITAL ZbTURNED GREEK SMALL LETTER IOTAbKELVIN SIGNbANGSTROM SIGNbSCRIP",
     "T CAPITAL BbBLACK-LETTER CAPITAL CbESTIMATED SYMBOLbSCRIPT SMALL EbuCAPITAL EbopFbTURNED CAPITAL",
     " FbSCRIPT CAPITAL MbuSMALL ObALEF SYMBOLbBET SYMBOLbGIMEL SYMBOLbDALET SYMBOLbINFORMATION SOURCE",
     "bROTATED CAPITAL QbFACSIMILE SIGNbDOUBLE-STRUCK SMALL PIbouGAMMAbooCAPITAL GAMMAbowPIbooN-ARY SU",
     "MMATIONbTURNED SANS-SERIF CAPITAL GbpnLbREVERSED SANS-SERIF CAPITAL LbTURNED SANS-SERIF CAPITAL ",
     "YbDOUBLE-STRUCK ITALIC CAPITAL DbovSMALL DbpoEbpoIbpoJbPROPERTY LINEbTURNED AMPERSANDbPER SIGNbA",
     "KTIESELSKABbTURNED SMALL FbSYMBOL FOR SAMARITAN SOURCEbVULGAR FRACTION ONE SEVENTHbouNINTHbouTEN",
     "THbovHIRDboqTWO THIRDSboqONE FIFTHboqTWO FIFTHSborHREE FIFTHSboqFOUR FIFTHSboqONE SIXTHboqFIVE S",
     "IXTHSboqONE EIGHTHboqTHREE EIGHTHSboqFIVE EIGHTHSboqSEVEN EIGHTHSbFRACTION NUMERATOR ONEbROMAN N",
     "UMERAL ONEbooTWObopHREEbooFOURbopIVEbooSIXbopEVENbooEIGHTbooNINEbooTENbooELEVENbooTWELVEbooFIFTY",
     "booONE HUNDREDbooFIVE HUNDREDbooONE THOUSANDbSMALL ROMAN NUMERAL ONEbouTWObovHREEbouFOURbovIVEbo",
     "uSIXbovEVENbouEIGHTbouNINEbouTENbouELEVENbouTWELVEbouFIFTYbouONE HUNDREDbouFIVE HUNDREDbouONE TH",
     "OUSANDbROMAN NUMERAL ONE THOUSAND C DbooFIVE THOUSANDbooTEN THOUSANDbooREVERSED ONE HUNDREDbLATI",
     "N SMALL LETTER REVERSED CbROMAN NUMERAL SIX LATE FORMbooFIFTY EARLY FORMbouTHOUSANDbooONE HUNDRE",
     "D THOUSANDbVULGAR FRACTION ZERO THIRDSbTURNED DIGIT TWObooHREEfLEFTWARDS ARROWbUPWARDS ARROWbRIG",
     "HTWARDS ARROWbDOWNWARDS ARROWbLEFT RIGHT ARROWbUP DOWN ARROWbNORTH WEST ARROWbtEAST ARROWbSOUTH ",
     "EAST ARROWbtWEST ARROWbLEFTWARDS ARROW WITH STROKEbRIGHTWARDS ARROW WITH STROKEbLEFTWARDS WAVE A",
     "RROWbRIGHTWARDS WAVE ARROWbLEFTWARDS TWO HEADED ARROWbUPWARDS TWO HEADED ARROWbRIGHTWARDS TWO HE",
     "ADED ARROWbDOWNWARDS TWO HEADED ARROWbLEFTWARDS ARROW WITH TAILbRIGHTWARDS ARROW WITH TAILbLEFTW",
     "ARDS ARROW FROM BARbUPWARDS ARROW FROM BARbRIGHTWARDS ARROW FROM BARbDOWNWARDS ARROW FROM BARbUP",
     " DOWN ARROW WITH BASEbLEFTWARDS ARROW WITH HOOKbRIGHTWARDS ARROW WITH HOOKbLEFTWARDS ARROW WITH ",
     "LOOPbRIGHTWARDS ARROW WITH LOOPbLEFT RIGHT WAVE ARROWbyARROW WITH STROKEbDOWNWARDS ZIGZAG ARROWb",
     "UPWARDS ARROW WITH TIP LEFTWARDSboxRIGHTWARDSbDOWNWARDS ARROW WITH TIP LEFTWARDSbozRIGHTWARDSbRI",
     "GHTWARDS ARROW WITH CORNER DOWNWARDSbDOWNWARDS ARROW WITH CORNER LEFTWARDSbANTICLOCKWISE TOP SEM",
     "ICIRCLE ARROWbCLOCKWISE TOP SEMICIRCLE ARROWbNORTH WEST ARROW TO LONG BARbLEFTWARDS ARROW TO BAR",
     " OVER RIGHTWARDS ARROW TO BARbANTICLOCKWISE OPEN CIRCLE ARROWbCLOCKWISE OPEN CIRCLE ARROWbLEFTWA",
     "RDS HARPOON WITH BARB UPWARDSbppDOWNWARDSbUPWARDS HARPOON WITH BARB RIGHTWARDSbpnLEFTWARDSbRIGHT",
     "WARDS HARPOON WITH BARB UPWARDSbpqDOWNWARDSbDOWNWARDS HARPOON WITH BARB RIGHTWARDSbppLEFTWARDSbR",
     "IGHTWARDS ARROW OVER LEFTWARDS ARROWbUPWARDS ARROW LEFTWARDS OF DOWNWARDS ARROWbLEFTWARDS ARROW ",
     "OVER RIGHTWARDS ARROWbxPAIRED ARROWSbUPWARDS PAIRED ARROWSbRIGHTWARDS PAIRED ARROWSbDOWNWARDS PA",
     "IRED ARROWSbLEFTWARDS HARPOON OVER RIGHTWARDS HARPOONbRIGHTWARDS HARPOON OVER LEFTWARDS HARPOONb",
     "LEFTWARDS DOUBLE ARROW WITH STROKEbr RIGHT DOUBLE ARROW WITH STROKEbRIGHTWARDS DOUBLE ARROW WITH",
     " STROKEbLEFTWARDS DOUBLE ARROWbUPWARDS DOUBLE ARROWbRIGHTWARDS DOUBLE ARROWbDOWNWARDS DOUBLE ARR",
     "OWbLEFT RIGHT DOUBLE ARROWbUP DOWN DOUBLE ARROWbNORTH WEST DOUBLE ARROWbtEAST DOUBLE ARROWbSOUTH",
     " EAST DOUBLE ARROWbtWEST DOUBLE ARROWbLEFTWARDS TRIPLE ARROWbRIGHTWARDS TRIPLE ARROWbLEFTWARDS S",
     "QUIGGLE ARROWbRIGHTWARDS SQUIGGLE ARROWbUPWARDS ARROW WITH DOUBLE STROKEbDOWNWARDS ARROW WITH DO",
     "UBLE STROKEbLEFTWARDS DASHED ARROWbUPWARDS DASHED ARROWbRIGHTWARDS DASHED ARROWbDOWNWARDS DASHED",
     " ARROWbLEFTWARDS ARROW TO BARbRIGHTWARDS ARROW TO BARbLEFTWARDS WHITE ARROWbUPWARDS WHITE ARROWb",
     "RIGHTWARDS WHITE ARROWbDOWNWARDS WHITE ARROWbUPWARDS WHITE ARROW FROM BARbouON PEDESTALbps WITH ",
     "HORIZONTAL BARbpyVERTICAL BARbooDOUBLE ARROWbpn ON PEDESTALbRIGHTWARDS WHITE ARROW FROM WALLbNOR",
     "TH WEST ARROW TO CORNERbSOUTH EAST ARROW TO CORNERbUP DOWN WHITE ARROWbRIGHT ARROW WITH SMALL CI",
     "RCLEbDOWNWARDS ARROW LEFTWARDS OF UPWARDS ARROWbTHREE RIGHTWARDS ARROWSbLEFTWARDS ARROW WITH VER",
     "TICAL STROKEbRIGHTWARDS ARROW WITH VERTICAL STROKEbLEFT RIGHT ARROW WITH VERTICAL STROKEbrWARDS ",
     "ARROW WITH DOUBLE VERTICAL STROKEbRIGHTWARDS ARROW WITH DOUBLE VERTICAL STROKEbLEFT RIGHT ARROW ",
     "WITH DOUBLE VERTICAL STROKEbrWARDS OPEN-HEADED ARROWbRIGHTWARDS OPEN-HEADED ARROWbLEFT RIGHT OPE",
     "N-HEADED ARROWbFOR ALLbCOMPLEMENTbPARTIAL DIFFERENTIALbTHERE EXISTSbtDOES NOT EXISTbEMPTY SETbIN",
     "CREMENTbNABLAbELEMENT OFbNOT AN ELEMENT OFbSMALL ELEMENT OFbCONTAINS AS MEMBERbDOES NOT CONTAIN ",
     "AS MEMBERbSMALL CONTAINS AS MEMBERbEND OF PROOFbN-ARY PRODUCTbtCOPRODUCTbtSUMMATIONbMINUS SIGNbs",
     "-OR-PLUS SIGNbDOT PLUSboIVISION SLASHbSET MINUSbASTERISK OPERATORbRING OPERATORbBULLET OPERATORb",
     "SQUARE ROOTbCUBE ROOTbFOURTH ROOTbPROPORTIONAL TObINFINITYbRIGHT ANGLEbANGLEbMEASURED ANGLEbSPHE",
     "RICAL ANGLEbDIVIDESboOES NOT DIVIDEbPARALLEL TObNOT PARALLEL TObLOGICAL ANDbvORbINTERSECTIONbUNI",
     "ONbINTEGRALbDOUBLE INTEGRALbTRIPLE INTEGRALbCONTOUR INTEGRALbSURFACE INTEGRALbVOLUME INTEGRALbCL",
     "OCKWISE INTEGRALbxCONTOUR INTEGRALbANTICLOCKWISE CONTOUR INTEGRALbTHEREFOREbBECAUSEbRATIObPROPOR",
     "TIONbDOT MINUSbEXCESSbGEOMETRIC PROPORTIONbHOMOTHETICbTILDE OPERATORbREVERSED TILDEbINVERTED LAZ",
     "Y SbSINE WAVEbWREATH PRODUCTbNOT TILDEbMINUS TILDEbASYMPTOTICALLY EQUAL TObNOT ASYMPTOTICALLY EQ",
     "UAL TObAPPROXIMATELY EQUAL TObooBUT NOT ACTUALLY EQUAL TObNEITHER APPROXIMATELY NOR ACTUALLY EQU",
     "AL TObALMOST EQUAL TObNOT ALMOST EQUAL TObALMOST EQUAL OR EQUAL TObTRIPLE TILDEbALL EQUAL TObEQU",
     "IVALENT TObGEOMETRICALLY EQUIVALENT TObDIFFERENCE BETWEENbAPPROACHES THE LIMITbGEOMETRICALLY EQU",
     "AL TObAPPROXIMATELY EQUAL TO OR THE IMAGE OFbIMAGE OF OR APPROXIMATELY EQUAL TObCOLON EQUALSbEQU",
     "ALS COLONbRING IN EQUAL TObsEQUAL TObCORRESPONDS TObESTIMATESboQUIANGULAR TObSTAR EQUALSbDELTA E",
     "QUAL TObEQUAL TO BY DEFINITIONbMEASURED BYbQUESTIONED EQUAL TObNOT EQUAL TObIDENTICAL TObNOT IDE",
     "NTICAL TObSTRICTLY EQUIVALENT TObLESS-THAN OR EQUAL TObGREATER-THAN OR EQUAL TObLESS-THAN OVER E",
     "QUAL TObGREATER-THAN OVER EQUAL TObLESS-THAN BUT NOT EQUAL TObGREATER-THAN BUT NOT EQUAL TObMUCH",
     " LESS-THANbsGREATER-THANbBETWEENbNOT EQUIVALENT TObrLESS-THANbrGREATER-THANboEITHER LESS-THAN NO",
     "R EQUAL TObvGREATER-THAN NOR EQUAL TObLESS-THAN OR EQUIVALENT TObGREATER-THAN OR EQUIVALENT TObN",
     "EITHER LESS-THAN NOR EQUIVALENT TObvGREATER-THAN NOR EQUIVALENT TObLESS-THAN OR GREATER-THANbGRE",
     "ATER-THAN OR LESS-THANbNEITHER LESS-THAN NOR GREATER-THANbvGREATER-THAN NOR LESS-THANbPRECEDESbS",
     "UCCEEDSbPRECEDES OR EQUAL TObSUCCEEDS OR EQUAL TObPRECEDES OR EQUIVALENT TObSUCCEEDS OR EQUIVALE",
     "NT TObDOES NOT PRECEDEbwSUCCEEDbSUBSET OFbpPERSET OFbNOT A SUBSET OFbvPERSET OFbSUBSET OF OR EQU",
     "AL TObpPERSET OF OR EQUAL TObNEITHER A SUBSET OF NOR EQUAL TObzPERSET OF NOR EQUAL TObSUBSET OF ",
     "WITH NOT EQUAL TObpPERSET OF WITH NOT EQUAL TObMULTISETbv MULTIPLICATIONbwUNIONbSQUARE IMAGE OFb",
     "uORIGINAL OFbuIMAGE OF OR EQUAL TObuORIGINAL OF OR EQUAL TObuCAPbvUPbCIRCLED PLUSbvMINUSbvTIMESb",
     "vDIVISION SLASHbwOT OPERATORbvRING OPERATORbvASTERISK OPERATORbvEQUALSbvDASHbSQUARED PLUSbvMINUS",
     "bvTIMESbvDOT OPERATORbRIGHT TACKbLEFT TACKbDOWN TACKbUP TACKbASSERTIONbMODELSbTRUEbFORCESbTRIPLE",
     " VERTICAL BAR RIGHT TURNSTILEbDOUBLE VERTICAL BAR DOUBLE RIGHT TURNSTILEbpES NOT PROVEbNOT TRUEb",
     "DOES NOT FORCEbNEGATED DOUBLE VERTICAL BAR DOUBLE RIGHT TURNSTILEbPRECEDES UNDER RELATIONbSUCCEE",
     "DS UNDER RELATIONbNORMAL SUBGROUP OFbCONTAINS AS NORMAL SUBGROUPbNORMAL SUBGROUP OF OR EQUAL TOb",
     "CONTAINS AS NORMAL SUBGROUP OR EQUAL TObORIGINAL OFbIMAGE OFbMULTIMAPbHERMITIAN CONJUGATE MATRIX",
     "bINTERCALATEbXORbNANDboORbRIGHT ANGLE WITH ARCbtTRIANGLEbN-ARY LOGICAL ANDbooORbtINTERSECTIONbtU",
     "NIONbDIAMOND OPERATORboOT OPERATORbSTAR OPERATORbDIVISION TIMESbBOWTIEbLEFT NORMAL FACTOR SEMIDI",
     "RECT PRODUCTbRIGHT NORMAL FACTOR SEMIDIRECT PRODUCTbLEFT SEMIDIRECT PRODUCTbRIGHT SEMIDIRECT PRO",
     "DUCTboEVERSED TILDE EQUALSbCURLY LOGICAL ORbooANDbDOUBLE SUBSETbwPERSETbuINTERSECTIONbuUNIONbPIT",
     "CHFORKbEQUAL AND PARALLEL TObLESS-THAN WITH DOTbGREATER-THAN WITH DOTbVERY MUCH LESS-THANbxGREAT",
     "ER-THANbLESS-THAN EQUAL TO OR GREATER-THANbGREATER-THAN EQUAL TO OR LESS-THANbEQUAL TO OR LESS-T",
     "HANbzGREATER-THANbzPRECEDESbzSUCCEEDSbDOES NOT PRECEDE OR EQUALbwSUCCEED OR EQUALbNOT SQUARE IMA",
     "GE OF OR EQUAL TObyORIGINAL OF OR EQUAL TObSQUARE IMAGE OF OR NOT EQUAL TObuORIGINAL OF OR NOT E",
     "QUAL TObLESS-THAN BUT NOT EQUIVALENT TObGREATER-THAN BUT NOT EQUIVALENT TObPRECEDES BUT NOT EQUI",
     "VALENT TObSUCCEEDS BUT NOT EQUIVALENT TObNOT NORMAL SUBGROUP OFbDOES NOT CONTAIN AS NORMAL SUBGR",
     "OUPbNOT NORMAL SUBGROUP OF OR EQUAL TObDOES NOT CONTAIN AS NORMAL SUBGROUP OR EQUALbVERTICAL ELL",
     "IPSISbMIDLINE HORIZONTAL ELLIPSISbUP RIGHT DIAGONAL ELLIPSISbDOWN RIGHT DIAGONAL ELLIPSISbELEMEN",
     "T OF WITH LONG HORIZONTAL STROKEboqVERTICAL BAR AT END OF HORIZONTAL STROKEbSMALL ELEMENT OF WIT",
     "H VERTICAL BAR AT END OF HORIZONTAL STROKEbELEMENT OF WITH DOT ABOVEboqOVERBARbSMALL ELEMENT OF ",
     "WITH OVERBARbELEMENT OF WITH UNDERBARboqTWO HORIZONTAL STROKESbCONTAINS WITH LONG HORIZONTAL STR",
     "OKEbooVERTICAL BAR AT END OF HORIZONTAL STROKEbSMALL CONTAINS WITH VERTICAL BAR AT END OF HORIZO",
     "NTAL STROKEbCONTAINS WITH OVERBARbSMALL CONTAINS WITH OVERBARbZ NOTATION BAG MEMBERSHIPbDIAMETER",
     " SIGNbELECTRIC ARROWbHOUSEbUP ARROWHEADbDOWN ARROWHEADbPROJECTIVEboERSPECTIVEbWAVY LINEbLEFT CEI",
     "LINGbRIGHT CEILINGbLEFT FLOORbRIGHT FLOORbBOTTOM RIGHT CROPbuLEFT CROPbTOP RIGHT CROPbrLEFT CROP",
     "bREVERSED NOT SIGNbSQUARE LOZENGEbARCbSEGMENTbpCTORbTELEPHONE RECORDERbPOSITION INDICATORbVIEWDA",
     "TA SQUAREbPLACE OF INTEREST SIGNbTURNED NOT SIGNbWATCHbHOURGLASSbTOP LEFT CORNERbrRIGHT CORNERbB",
     "OTTOM LEFT CORNERbuRIGHT CORNERbTOP HALF INTEGRALbBOTTOM HALF INTEGRALbFROWNbSMILEbUP ARROWHEAD ",
     "BETWEEN TWO HORIZONTAL BARSbOPTION KEYbERASE TO THE RIGHTbX IN A RECTANGLE BOXbKEYBOARDbLEFT-POI",
     "NTING ANGLE BRACKETbRIGHT-POINTING ANGLE BRACKETbERASE TO THE LEFTbBENZENE RINGbCYLINDRICITYbALL",
     " AROUND-PROFILEbSYMMETRYbTOTAL RUNOUTbDIMENSION ORIGINbCONICAL TAPERbSLOPEbCOUNTERBOREbuSINKbAPL",
     " FUNCTIONAL SYMBOL I-BEAMbowSQUISH QUADbowQUAD EQUALbpoDIVIDEbpqAMONDbpoJOTbpoCIRCLEbowCIRCLE ST",
     "ILEbpqJOTbowSLASH BARbowBACKSLASH BARbowQUAD SLASHbpoBACKSLASHbpoLESS-THANbpoGREATER-THANbowLEFT",
     "WARDS VANEbowRIGHTWARDS VANEbowQUAD LEFTWARDS ARROWbpoRIGHTWARDS ARROWbowCIRCLE BACKSLASHbowDOWN",
     " TACK UNDERBARboxELTA STILEbowQUAD DOWN CARETbppELTAbowDOWN TACK JOTbowUPWARDS VANEbowQUAD UPWAR",
     "DS ARROWbowUP TACK OVERBARbowDEL STILEbowQUAD UP CARETbpoDELbowUP TACK JOTbowDOWNWARDS VANEbowQU",
     "AD DOWNWARDS ARROWboyOTE UNDERBARbowDELTA UNDERBARboxIAMOND UNDERBARbowJOT UNDERBARbowCIRCLE UND",
     "ERBARbowUP SHOE JOTbowQUOTE QUADbowCIRCLE STARbowQUAD COLONbowUP TACK DIAERESISbowDEL DIAERESISb",
     "owSTAR DIAERESISbowJOT DIAERESISbowCIRCLE DIAERESISbowDOWN SHOE STILEbowLEFT SHOE STILEbowTILDE ",
     "DIAERESISbowGREATER-THAN DIAERESISbowCOMMA BARbowDEL TILDEbowZILDEbowSTILE TILDEboxEMICOLON UNDE",
     "RBARbowQUAD NOT EQUALbpoQUESTIONbowDOWN CARET TILDEbowUP CARET TILDEbowIOTAbowRHObowOMEGAbowALPH",
     "A UNDERBARbowEPSILON UNDERBARbowIOTA UNDERBARbowOMEGA UNDERBARbowALPHAbNOT CHECK MARKbRIGHT ANGL",
     "E WITH DOWNWARDS ZIGZAG ARROWbSHOULDERED OPEN BOXbBELL SYMBOLbVERTICAL LINE WITH MIDDLE DOTbINSE",
     "RTION SYMBOLbCONTINUOUS UNDERLINE SYMBOLbDISCONTINUOUS UNDERLINE SYMBOLbEMPHASIS SYMBOLbCOMPOSIT",
     "ION SYMBOLbWHITE SQUARE WITH CENTRE VERTICAL LINEbENTER SYMBOLbALTERNATIVE KEY SYMBOLbHELM SYMBO",
     "LbCIRCLED HORIZONTAL BAR WITH NOTCHbvTRIANGLE DOWNbBROKEN CIRCLE WITH NORTHWEST ARROWbUNDO SYMBO",
     "LbMONOSTABLE SYMBOLbHYSTERESIS SYMBOLbOPEN-CIRCUIT-OUTPUT H-TYPE SYMBOLbouL-TYPE SYMBOLbPASSIVE-",
     "PULL-DOWN-OUTPUT SYMBOLbonUP-OUTPUT SYMBOLbDIRECT CURRENT SYMBOL FORM TWObSOFTWARE-FUNCTION SYMB",
     "OLbAPL FUNCTIONAL SYMBOL QUADbDECIMAL SEPARATOR KEY SYMBOLbPREVIOUS PAGEbNEXT PAGEbPRINT SCREEN ",
     "SYMBOLbCLEAR SCREEN SYMBOLbLEFT PARENTHESIS UPPER HOOKborEXTENSIONborLOWER HOOKbRIGHT PARENTHESI",
     "S UPPER HOOKbosEXTENSIONbosLOWER HOOKbLEFT SQUARE BRACKET UPPER CORNERbouEXTENSIONbouLOWER CORNE",
     "RbRIGHT SQUARE BRACKET UPPER CORNERbovEXTENSIONbovLOWER CORNERbLEFT CURLY BRACKET UPPER HOOKbotM",
     "IDDLE PIECEbotLOWER HOOKbCURLY BRACKET EXTENSIONbRIGHT CURLY BRACKET UPPER HOOKbouMIDDLE PIECEbo",
     "uLOWER HOOKbINTEGRAL EXTENSIONbHORIZONTAL LINE EXTENSIONbUPPER LEFT OR LOWER RIGHT CURLY BRACKET",
     " SECTIONbtRIGHT OR LOWER LEFT CURLY BRACKET SECTIONbSUMMATION TOPbxBOTTOMbTOP SQUARE BRACKETbBOT",
     "TOM SQUARE BRACKETbov OVER TOP SQUARE BRACKETbRADICAL SYMBOL BOTTOMbLEFT VERTICAL BOX LINEbRIGHT",
     " VERTICAL BOX LINEbHORIZONTAL SCAN LINE-1bov3bov7bov9bDENTISTRY SYMBOL LIGHT VERTICAL AND TOP RI",
     "GHTbpxBOTTOM RIGHTbptWITH CIRCLEboxDOWN AND HORIZONTAL WITH CIRCLEboxUP AND HORIZONTAL WITH CIRC",
     "LEboxVERTICAL WITH TRIANGLEboxDOWN AND HORIZONTAL WITH TRIANGLEboxUP AND HORIZONTAL WITH TRIANGL",
     "EboxVERTICAL AND WAVEboxDOWN AND HORIZONTAL WITH WAVEboxUP AND HORIZONTAL WITH WAVEboxDOWN AND H",
     "ORIZONTALboxUP AND HORIZONTALboxVERTICAL AND TOP LEFTbpxBOTTOM LEFTbSQUARE FOOTbRETURN SYMBOLbEJ",
     "ECT SYMBOLbVERTICAL LINE EXTENSIONbMETRICAL BREVEbwLONG OVER SHORTbwSHORT OVER LONGbwLONG OVER T",
     "WO SHORTSbwTWO SHORTS OVER LONGbouJOINEDbxRISEMEbxETRASEMEbwPENTASEMEbEARTH GROUNDbFUSEbTOP PARE",
     "NTHESISbBOTTOM PARENTHESISbTOP CURLY BRACKETbBOTTOM CURLY BRACKETbTOP TORTOISE SHELL BRACKETbBOT",
     "TOM TORTOISE SHELL BRACKETbWHITE TRAPEZIUMbBENZENE RING WITH CIRCLEbSTRAIGHTNESSbFLATNESSbAC CUR",
     "RENTbELECTRICAL INTERSECTIONbDECIMAL EXPONENT SYMBOLbBLACK RIGHT-POINTING DOUBLE TRIANGLEbtLEFT-",
     "POINTING DOUBLE TRIANGLEbtUP-POINTING DOUBLE TRIANGLEbtDOWN-POINTING DOUBLE TRIANGLEbtRIGHT-POIN",
     "TING DOUBLE TRIANGLE WITH VERTICAL BARbtLEFT-POINTING DOUBLE TRIANGLE WITH VERTICAL BARbtRIGHT-P",
     "OINTING TRIANGLE WITH DOUBLE VERTICAL BARbALARM CLOCKbSTOPWATCHbTIMER CLOCKbHOURGLASS WITH FLOWI",
     "NG SANDbBLACK MEDIUM LEFT-POINTING TRIANGLEbonRIGHT-POINTING TRIANGLEbonUP-POINTING TRIANGLEbonD",
     "OWN-POINTING TRIANGLEbDOUBLE VERTICAL BARbBLACK SQUARE FOR STOPbtCIRCLE FOR RECORDbPOWER SYMBOLb",
     "tON-OFF SYMBOLbv SYMBOLbtSLEEP SYMBOLbOBSERVER EYE SYMBOLbSYMBOL FOR NULLbySTART OF HEADINGbouTE",
     "XTbyEND OF TEXTbotRANSMISSIONbonQUIRYbyACKNOWLEDGEbyBELLbzACKSPACEbyHORIZONTAL TABULATIONbyLINE ",
     "FEEDbyVERTICAL TABULATIONbyFORM FEEDbyCARRIAGE RETURNbySHIFT OUTborINbyDATA LINK ESCAPEbzEVICE C",
     "ONTROL ONEbpnTWObpoHREEbpnFOURbyNEGATIVE ACKNOWLEDGEbySYNCHRONOUS IDLEbyEND OF TRANSMISSION BLOC",
     "KbyCANCELbyEND OF MEDIUMbySUBSTITUTEbyESCAPEbyFILE SEPARATORbyGROUP SEPARATORbyRECORD SEPARATORb",
     "yUNIT SEPARATORbySPACEbyDELETEbBLANK SYMBOLbOPEN BOXbSYMBOL FOR NEWLINEbyDELETE FORM TWObySUBSTI",
     "TUTE FORM TWOcaOCR HOOKbrCHAIRbrFORKbrINVERTED FORKbrBELT BUCKLEbsOW TIEbsRANCH BANK IDENTIFICAT",
     "IONbrAMOUNT OF CHECKbrDASHbrCUSTOMER ACCOUNT NUMBERbrDOUBLE BACKSLASHbjCIRCLED DIGIT ONEbooTWObo",
     "pHREEbooFOURbopIVEbooSIXbopEVENbooEIGHTbooNINEbvNUMBER TENbopELEVENbopTWELVEboqHIRTEENbopFOURTEE",
     "NboqIFTEENbopSIXTEENboqEVENTEENbopEIGHTEENbopNINETEENbopTWENTYbPARENTHESIZED DIGIT ONEbouTWObovH",
     "REEbouFOURbovIVEbouSIXbovEVENbouEIGHTbouNINEbooNUMBER TENbovELEVENbovTWELVEbowHIRTEENbovFOURTEEN",
     "bowIFTEENbovSIXTEENbowEVENTEENbovEIGHTEENbovNINETEENbovTWENTYbDIGIT ONE FULL STOPbtTWO FULL STOP",
     "buHREE FULL STOPbtFOUR FULL STOPbuIVE FULL STOPbtSIX FULL STOPbuEVEN FULL STOPbtEIGHT FULL STOPb",
     "tNINE FULL STOPbNUMBER TEN FULL STOPbuELEVEN FULL STOPbuTWELVE FULL STOPbvHIRTEEN FULL STOPbuFOU",
     "RTEEN FULL STOPbvIFTEEN FULL STOPbuSIXTEEN FULL STOPbvEVENTEEN FULL STOPbuEIGHTEEN FULL STOPbuNI",
     "NETEEN FULL STOPbuTWENTY FULL STOPbPARENTHESIZED LATIN SMALL LETTER AbpuBbpuCbpuDbpuEbpuFbpuGbpu",
     "HbpuIbpuJbpuKbpuLbpuMbpuNbpuObpuPbpuQbpuRbpuSbpuTbpuUbpuVbpuWbpuXbpuYbpuZbCIRCLED LATIN CAPITAL ",
     "LETTER AbpqBbpqCbpqDbpqEbpqFbpqGbpqHbpqIbpqJbpqKbpqLbpqMbpqNbpqObpqPbpqQbpqRbpqSbpqTbpqUbpqVbpqW",
     "bpqXbpqYbpqZbooSMALL LETTER AbpoBbpoCbpoDbpoEbpoFbpoGbpoHbpoIbpoJbpoKbpoLbpoMbpoNbpoObpoPbpoQbpo",
     "RbpoSbpoTbpoUbpoVbpoWbpoXbpoYbpoZbvDIGIT ZERObNEGATIVE CIRCLED NUMBER ELEVENboyTWELVEbozHIRTEENb",
     "oyFOURTEENbozIFTEENboySIXTEENbozEVENTEENboyEIGHTEENboyNINETEENboyTWENTYbDOUBLE CIRCLED DIGIT ONE",
     "bovTWObowHREEbovFOURbowIVEbovSIXbowEVENbovEIGHTbovNINEbopNUMBER TENbNEGATIVE CIRCLED DIGIT ZEROb",
     "BOX DRAWINGS LIGHT HORIZONTALbonHEAVY HORIZONTALbonLIGHT VERTICALbonHEAVY VERTICALbonLIGHT TRIPL",
     "E DASH HORIZONTALbonHEAVY TRIPLE DASH HORIZONTALbonLIGHT TRIPLE DASH VERTICALbonHEAVY TRIPLE DAS",
     "H VERTICALbonLIGHT QUADRUPLE DASH HORIZONTALbonHEAVY QUADRUPLE DASH HORIZONTALbonLIGHT QUADRUPLE",
     " DASH VERTICALbonHEAVY QUADRUPLE DASH VERTICALbonLIGHT DOWN AND RIGHTbonDOWN LIGHT AND RIGHT HEA",
     "VYbosHEAVY AND RIGHT LIGHTbonHEAVY DOWN AND RIGHTbonLIGHT DOWN AND LEFTbonDOWN LIGHT AND LEFT HE",
     "AVYbosHEAVY AND LEFT LIGHTbonHEAVY DOWN AND LEFTbonLIGHT UP AND RIGHTbonUP LIGHT AND RIGHT HEAVY",
     "boqHEAVY AND RIGHT LIGHTbonHEAVY UP AND RIGHTbonLIGHT UP AND LEFTbonUP LIGHT AND LEFT HEAVYboqHE",
     "AVY AND LEFT LIGHTbonHEAVY UP AND LEFTbonLIGHT VERTICAL AND RIGHTbonVERTICAL LIGHT AND RIGHT HEA",
     "VYbonUP HEAVY AND RIGHT DOWN LIGHTbonDOWN HEAVY AND RIGHT UP LIGHTbonVERTICAL HEAVY AND RIGHT LI",
     "GHTbonDOWN LIGHT AND RIGHT UP HEAVYbonUP LIGHT AND RIGHT DOWN HEAVYbonHEAVY VERTICAL AND RIGHTbo",
     "nLIGHT VERTICAL AND LEFTbonVERTICAL LIGHT AND LEFT HEAVYbonUP HEAVY AND LEFT DOWN LIGHTbonDOWN H",
     "EAVY AND LEFT UP LIGHTbonVERTICAL HEAVY AND LEFT LIGHTbonDOWN LIGHT AND LEFT UP HEAVYbonUP LIGHT",
     " AND LEFT DOWN HEAVYbonHEAVY VERTICAL AND LEFTbonLIGHT DOWN AND HORIZONTALbooEFT HEAVY AND RIGHT",
     " DOWN LIGHTbonRIGHT HEAVY AND LEFT DOWN LIGHTbonDOWN LIGHT AND HORIZONTAL HEAVYbosHEAVY AND HORI",
     "ZONTAL LIGHTbonRIGHT LIGHT AND LEFT DOWN HEAVYbonLEFT LIGHT AND RIGHT DOWN HEAVYbonHEAVY DOWN AN",
     "D HORIZONTALbonLIGHT UP AND HORIZONTALbooEFT HEAVY AND RIGHT UP LIGHTbonRIGHT HEAVY AND LEFT UP ",
     "LIGHTbonUP LIGHT AND HORIZONTAL HEAVYboqHEAVY AND HORIZONTAL LIGHTbonRIGHT LIGHT AND LEFT UP HEA",
     "VYbonLEFT LIGHT AND RIGHT UP HEAVYbonHEAVY UP AND HORIZONTALbonLIGHT VERTICAL AND HORIZONTALbooE",
     "FT HEAVY AND RIGHT VERTICAL LIGHTbonRIGHT HEAVY AND LEFT VERTICAL LIGHTbonVERTICAL LIGHT AND HOR",
     "IZONTAL HEAVYbonUP HEAVY AND DOWN HORIZONTAL LIGHTbonDOWN HEAVY AND UP HORIZONTAL LIGHTbonVERTIC",
     "AL HEAVY AND HORIZONTAL LIGHTbonLEFT UP HEAVY AND RIGHT DOWN LIGHTbonRIGHT UP HEAVY AND LEFT DOW",
     "N LIGHTbonLEFT DOWN HEAVY AND RIGHT UP LIGHTbonRIGHT DOWN HEAVY AND LEFT UP LIGHTbonDOWN LIGHT A",
     "ND UP HORIZONTAL HEAVYbonUP LIGHT AND DOWN HORIZONTAL HEAVYbonRIGHT LIGHT AND LEFT VERTICAL HEAV",
     "YbonLEFT LIGHT AND RIGHT VERTICAL HEAVYbonHEAVY VERTICAL AND HORIZONTALbonLIGHT DOUBLE DASH HORI",
     "ZONTALbonHEAVY DOUBLE DASH HORIZONTALbonLIGHT DOUBLE DASH VERTICALbonHEAVY DOUBLE DASH VERTICALb",
     "onDOUBLE HORIZONTALbouVERTICALbopWN SINGLE AND RIGHT DOUBLEbosDOUBLE AND RIGHT SINGLEbopUBLE DOW",
     "N AND RIGHTbopWN SINGLE AND LEFT DOUBLEbosDOUBLE AND LEFT SINGLEbopUBLE DOWN AND LEFTbonUP SINGL",
     "E AND RIGHT DOUBLEboqDOUBLE AND RIGHT SINGLEbonDOUBLE UP AND RIGHTbonUP SINGLE AND LEFT DOUBLEbo",
     "qDOUBLE AND LEFT SINGLEbonDOUBLE UP AND LEFTbonVERTICAL SINGLE AND RIGHT DOUBLEbowDOUBLE AND RIG",
     "HT SINGLEbonDOUBLE VERTICAL AND RIGHTbonVERTICAL SINGLE AND LEFT DOUBLEbowDOUBLE AND LEFT SINGLE",
     "bonDOUBLE VERTICAL AND LEFTbopWN SINGLE AND HORIZONTAL DOUBLEbosDOUBLE AND HORIZONTAL SINGLEbopU",
     "BLE DOWN AND HORIZONTALbonUP SINGLE AND HORIZONTAL DOUBLEboqDOUBLE AND HORIZONTAL SINGLEbonDOUBL",
     "E UP AND HORIZONTALbonVERTICAL SINGLE AND HORIZONTAL DOUBLEbowDOUBLE AND HORIZONTAL SINGLEbonDOU",
     "BLE VERTICAL AND HORIZONTALbonLIGHT ARC DOWN AND RIGHTbptLEFTboxUP AND LEFTbprRIGHTbotDIAGONAL U",
     "PPER RIGHT TO LOWER LEFTbpvLEFT TO LOWER RIGHTbppCROSSbotLEFTbotUPbotRIGHTbotDOWNbonHEAVY LEFTbo",
     "tUPbotRIGHTbotDOWNbonLIGHT LEFT AND HEAVY RIGHTbotUP AND HEAVY DOWNbonHEAVY LEFT AND LIGHT RIGHT",
     "botUP AND LIGHT DOWNbUPPER HALF BLOCKbLOWER ONE EIGHTH BLOCKbxQUARTER BLOCKbtTHREE EIGHTHS BLOCK",
     "btHALF BLOCKbtFIVE EIGHTHS BLOCKbtTHREE QUARTERS BLOCKbtSEVEN EIGHTHS BLOCKbFULL BLOCKbLEFT SEVE",
     "N EIGHTHS BLOCKbsTHREE QUARTERS BLOCKbsFIVE EIGHTHS BLOCKbsHALF BLOCKbsTHREE EIGHTHS BLOCKbsONE ",
     "QUARTER BLOCKbwEIGHTH BLOCKbRIGHT HALF BLOCKbLIGHT SHADEbMEDIUM SHADEbDARK SHADEbUPPER ONE EIGHT",
     "H BLOCKbRIGHT ONE EIGHTH BLOCKbQUADRANT LOWER LEFTbopRIGHTbwUPPER LEFTbot AND LOWER LEFT AND LOW",
     "ER RIGHTbprRIGHTboyUPPER RIGHT AND LOWER LEFTbquRIGHTbopRIGHTbou AND LOWER LEFTbpw AND LOWER RIG",
     "HTbBLACK SQUAREbWHITE SQUAREbz WITH ROUNDED CORNERSbonCONTAINING BLACK SMALL SQUAREbSQUARE WITH "]

def characterNameRecordsPart5 : String :=
  String.join
    ["HORIZONTAL FILLbzVERTICAL FILLbzORTHOGONAL CROSSHATCH FILLbzUPPER LEFT TO LOWER RIGHT FILLbosRIG",
     "HT TO LOWER LEFT FILLbzDIAGONAL CROSSHATCH FILLbBLACK SMALL SQUAREbWHITE SMALL SQUAREbBLACK RECT",
     "ANGLEbWHITE RECTANGLEbBLACK VERTICAL RECTANGLEbWHITE VERTICAL RECTANGLEbBLACK PARALLELOGRAMbWHIT",
     "E PARALLELOGRAMbBLACK UP-POINTING TRIANGLEbWHITE UP-POINTING TRIANGLEbBLACK UP-POINTING SMALL TR",
     "IANGLEbWHITE UP-POINTING SMALL TRIANGLEbBLACK RIGHT-POINTING TRIANGLEbWHITE RIGHT-POINTING TRIAN",
     "GLEbBLACK RIGHT-POINTING SMALL TRIANGLEbWHITE RIGHT-POINTING SMALL TRIANGLEbBLACK RIGHT-POINTING",
     " POINTERbWHITE RIGHT-POINTING POINTERbBLACK DOWN-POINTING TRIANGLEbWHITE DOWN-POINTING TRIANGLEb",
     "BLACK DOWN-POINTING SMALL TRIANGLEbWHITE DOWN-POINTING SMALL TRIANGLEbBLACK LEFT-POINTING TRIANG",
     "LEbWHITE LEFT-POINTING TRIANGLEbBLACK LEFT-POINTING SMALL TRIANGLEbWHITE LEFT-POINTING SMALL TRI",
     "ANGLEbBLACK LEFT-POINTING POINTERbWHITE LEFT-POINTING POINTERbBLACK DIAMONDbWHITE DIAMONDbon CON",
     "TAINING BLACK SMALL DIAMONDbFISHEYEbLOZENGEbWHITE CIRCLEbDOTTED CIRCLEbCIRCLE WITH VERTICAL FILL",
     "bBULLSEYEboLACK CIRCLEbCIRCLE WITH LEFT HALF BLACKbzRIGHT HALF BLACKbzLOWER HALF BLACKbzUPPER HA",
     "LF BLACKbosRIGHT QUADRANT BLACKbzALL BUT UPPER LEFT QUADRANT BLACKbLEFT HALF BLACK CIRCLEbRIGHT ",
     "HALF BLACK CIRCLEbINVERSE BULLETbvWHITE CIRCLEbUPPER HALF INVERSE WHITE CIRCLEbLOWER HALF INVERS",
     "E WHITE CIRCLEbUPPER LEFT QUADRANT CIRCULAR ARCbtRIGHT QUADRANT CIRCULAR ARCbLOWER RIGHT QUADRAN",
     "T CIRCULAR ARCbtLEFT QUADRANT CIRCULAR ARCbUPPER HALF CIRCLEbLOWER HALF CIRCLEbBLACK LOWER RIGHT",
     " TRIANGLEbzLEFT TRIANGLEbtUPPER LEFT TRIANGLEbzRIGHT TRIANGLEbWHITE BULLETbSQUARE WITH LEFT HALF",
     " BLACKbzRIGHT HALF BLACKbzUPPER LEFT DIAGONAL HALF BLACKbzLOWER RIGHT DIAGONAL HALF BLACKbWHITE ",
     "SQUARE WITH VERTICAL BISECTING LINEbtUP-POINTING TRIANGLE WITH DOTbUP-POINTING TRIANGLE WITH LEF",
     "T HALF BLACKbpnRIGHT HALF BLACKbLARGE CIRCLEbWHITE SQUARE WITH UPPER LEFT QUADRANTbosLOWER LEFT ",
     "QUADRANTboyRIGHT QUADRANTbosUPPER RIGHT QUADRANTbtCIRCLE WITH UPPER LEFT QUADRANTbosLOWER LEFT Q",
     "UADRANTboyRIGHT QUADRANTbosUPPER RIGHT QUADRANTbUPPER LEFT TRIANGLEbtRIGHT TRIANGLEbLOWER LEFT T",
     "RIANGLEbWHITE MEDIUM SQUAREbBLACK MEDIUM SQUAREbWHITE MEDIUM SMALL SQUAREbBLACK MEDIUM SMALL SQU",
     "AREbLOWER RIGHT TRIANGLEbBLACK SUN WITH RAYSbCLOUDbUMBRELLAbSNOWMANbCOMETbBLACK STARbWHITE STARb",
     "LIGHTNINGbTHUNDERSTORMbSUNbASCENDING NODEbDESCENDING NODEbCONJUNCTIONbOPPOSITIONbBLACK TELEPHONE",
     "bWHITE TELEPHONEbBALLOT BOXbx WITH CHECKboqXbSALTIREbUMBRELLA WITH RAIN DROPSbHOT BEVERAGEbWHITE",
     " SHOGI PIECEbBLACK SHOGI PIECEbSHAMROCKbREVERSED ROTATED FLORAL HEART BULLETbBLACK LEFT POINTING",
     " INDEXbtRIGHT POINTING INDEXbWHITE LEFT POINTING INDEXbtUP POINTING INDEXbtRIGHT POINTING INDEXb",
     "tDOWN POINTING INDEXbSKULL AND CROSSBONESbCAUTION SIGNbRADIOACTIVE SIGNbBIOHAZARD SIGNbCADUCEUSb",
     "ANKHbORTHODOX CROSSbCHI RHOboROSS OF LORRAINEbwJERUSALEMbSTAR AND CRESCENTbFARSI SYMBOLbADI SHAK",
     "TIbHAMMER AND SICKLEbPEACE SYMBOLbYIN YANGbTRIGRAM FOR HEAVENbzLAKEbzFIREbzTHUNDERbzWINDbonATERb",
     "zMOUNTAINbzEARTHbWHEEL OF DHARMAbpITE FROWNING FACEbtSMILING FACEbBLACK SMILING FACEbWHITE SUN W",
     "ITH RAYSbFIRST QUARTER MOONbLAST QUARTER MOONbMERCURYbFEMALE SIGNbEARTHbMALE SIGNbJUPITERbSATURN",
     "bURANUSbNEPTUNEbPLUTObARIESbTAURUSbGEMINIbCANCERbLEObVIRGObLIBRAbSCORPIUSboAGITTARIUSbCAPRICORNb",
     "AQUARIUSbPISCESbWHITE CHESS KINGbzQUEENbzROOKbzBISHOPbzKNIGHTbzPAWNbBLACK CHESS KINGbzQUEENbzROO",
     "KbzBISHOPbzKNIGHTbzPAWNbtSPADE SUITbWHITE HEART SUITbtDIAMOND SUITbBLACK CLUB SUITbWHITE SPADE S",
     "UITbBLACK HEART SUITbtDIAMOND SUITbWHITE CLUB SUITbHOT SPRINGSbQUARTER NOTEbEIGHTH NOTEbBEAMED E",
     "IGHTH NOTESbuSIXTEENTH NOTESbMUSIC FLAT SIGNbtNATURAL SIGNbtSHARP SIGNbWEST SYRIAC CROSSbEAST SY",
     "RIAC CROSSbUNIVERSAL RECYCLING SYMBOLbRECYCLING SYMBOL FOR TYPE-1 PLASTICSbpn2 PLASTICSbpn3 PLAS",
     "TICSbpn4 PLASTICSbpn5 PLASTICSbpn6 PLASTICSbpn7 PLASTICSbovGENERIC MATERIALSbBLACK UNIVERSAL REC",
     "YCLING SYMBOLbRECYCLED PAPER SYMBOLbPARTIALLY-RECYCLED PAPER SYMBOLboERMANENT PAPER SIGNbWHEELCH",
     "AIR SYMBOLbDIE FACE-1bw2bw3bw4bw5bw6bWHITE CIRCLE WITH DOT RIGHTbosTWO DOTSbBLACK CIRCLE WITH WH",
     "ITE DOT RIGHTbosTWO WHITE DOTSbMONOGRAM FOR YANGbooINbDIGRAM FOR GREATER YANGbyLESSER YINbotANGb",
     "yGREATER YINbWHITE FLAGbBLACK FLAGbHAMMER AND PICKbANCHORbCROSSED SWORDSbSTAFF OF AESCULAPIUSboC",
     "ALESbALEMBICbFLOWERbGEARbSTAFF OF HERMESbATOM SYMBOLbFLEUR-DE-LISbOUTLINED WHITE STARbTHREE LINE",
     "S CONVERGING RIGHTboxLEFTbWARNING SIGNbHIGH VOLTAGE SIGNbDOUBLED FEMALE SIGNbvMALE SIGNbINTERLOC",
     "KED FEMALE AND MALE SIGNbMALE AND FEMALE SIGNbsWITH STROKE SIGNborAND MALE AND FEMALE SIGNbVERTI",
     "CAL MALE WITH STROKE SIGNbHORIZONTAL MALE WITH STROKE SIGNbMEDIUM WHITE CIRCLEbuBLACK CIRCLEbuSM",
     "ALL WHITE CIRCLEboARRIAGE SYMBOLbDIVORCE SYMBOLbUNMARRIED PARTNERSHIP SYMBOLbCOFFINbFUNERAL URNb",
     "NEUTERbCERESbPALLASbJUNObVESTAbCHIRONbBLACK MOON LILITHbSEXTILEbpMISEXTILEbQUINCUNXbSESQUIQUADRA",
     "TEboOCCER BALLbBASEBALLbSQUARED KEYbWHITE DRAUGHTS MANbopKINGbBLACK DRAUGHTS MANbopKINGbSNOWMAN ",
     "WITHOUT SNOWboUN BEHIND CLOUDbRAINbBLACK SNOWMANbTHUNDER CLOUD AND RAINboURNED WHITE SHOGI PIECE",
     "buBLACK SHOGI PIECEbWHITE DIAMOND IN SQUAREbCROSSING LANESbDISABLED CARbOPHIUCHUSbPICKbCAR SLIDI",
     "NGbHELMET WITH WHITE CROSSbCIRCLED CROSSING LANESboHAINSbNO ENTRYbALTERNATE ONE-WAY LEFT WAY TRA",
     "FFICbBLACK TWO-WAY LEFT WAY TRAFFICbWHITE TWO-WAY LEFT WAY TRAFFICbBLACK LEFT LANE MERGEbWHITE L",
     "EFT LANE MERGEbDRIVE SLOW SIGNbHEAVY WHITE DOWN-POINTING TRIANGLEbLEFT CLOSED ENTRYbSQUARED SALT",
     "IREbFALLING DIAGONAL IN WHITE CIRCLE IN BLACK SQUAREbBLACK TRUCKbRESTRICTED LEFT ENTRY-1bow2bAST",
     "RONOMICAL SYMBOL FOR URANUSbHEAVY CIRCLE WITH STROKE AND TWO DOTS ABOVEbPENTAGRAMbRIGHT-HANDED I",
     "NTERLACED PENTAGRAMbLEFT-HANDED INTERLACED PENTAGRAMbINVERTED PENTAGRAMbBLACK CROSS ON SHIELDbSH",
     "INTO SHRINEbCHURCHboASTLEbHISTORIC SITEbGEAR WITHOUT HUBbw HANDLESbMAP SYMBOL FOR LIGHTHOUSEboOU",
     "NTAINbUMBRELLA ON GROUNDbFOUNTAINboLAG IN HOLEboERRYbSAILBOATboQUARE FOUR CORNERSboKIERbICE SKAT",
     "EbPERSON WITH BALLbTENTbJAPANESE BANK SYMBOLbHEADSTONE GRAVEYARD SYMBOLbFUEL PUMPbCUP ON BLACK S",
     "QUAREbWHITE FLAG WITH HORIZONTAL MIDDLE BLACK STRIPEbBLACK SAFETY SCISSORSbUPPER BLADE SCISSORSb",
     "BLACK SCISSORSbLOWER BLADE SCISSORSbWHITE SCISSORSbtHEAVY CHECK MARKbTELEPHONE LOCATION SIGNboAP",
     "E DRIVEbAIRPLANEbENVELOPEbRAISED FISTbuHANDbVICTORY HANDbWRITING HANDbLOWER RIGHT PENCILbPENCILb",
     "UPPER RIGHT PENCILbWHITE NIBbBLACK NIBbCHECK MARKbHEAVY CHECK MARKbMULTIPLICATION XbHEAVY MULTIP",
     "LICATION XbBALLOT XbHEAVY BALLOT XbOUTLINED GREEK CROSSbHEAVY GREEK CROSSbOPEN CENTRE CROSSbHEAV",
     "Y OPEN CENTRE CROSSbLATIN CROSSbSHADOWED WHITE LATIN CROSSbOUTLINED LATIN CROSSbMALTESE CROSSbST",
     "AR OF DAVIDbFOUR TEARDROP-SPOKED ASTERISKbsBALLOON-SPOKED ASTERISKbHEAVY FOUR BALLOON-SPOKED AST",
     "ERISKbFOUR CLUB-SPOKED ASTERISKbBLACK FOUR POINTED STARbWHITE FOUR POINTED STARbSPARKLESboTRESS ",
     "OUTLINED WHITE STARbCIRCLED WHITE STARbOPEN CENTRE BLACK STARbBLACK CENTRE WHITE STARbOUTLINED B",
     "LACK STARbHEAVY OUTLINED BLACK STARbPINWHEEL STARbSHADOWED WHITE STARbHEAVY ASTERISKbOPEN CENTRE",
     " ASTERISKbEIGHT SPOKED ASTERISKbtPOINTED BLACK STARbooPINWHEEL STARbSIX POINTED BLACK STARbEIGHT",
     " POINTED RECTILINEAR BLACK STARbHEAVY EIGHT POINTED RECTILINEAR BLACK STARbTWELVE POINTED BLACK ",
     "STARbSIXTEEN POINTED ASTERISKbTEARDROP-SPOKED ASTERISKbOPEN CENTRE TEARDROP-SPOKED ASTERISKbHEAV",
     "Y TEARDROP-SPOKED ASTERISKbSIX PETALLED BLACK AND WHITE FLORETTEbBLACK FLORETTEbWHITE FLORETTEbE",
     "IGHT PETALLED OUTLINED BLACK FLORETTEbCIRCLED OPEN CENTRE EIGHT POINTED STARbHEAVY TEARDROP-SPOK",
     "ED PINWHEEL ASTERISKbSNOWFLAKEbTIGHT TRIFOLIATE SNOWFLAKEbHEAVY CHEVRON SNOWFLAKEbSPARKLEbHEAVY ",
     "SPARKLEbBALLOON-SPOKED ASTERISKbEIGHT TEARDROP-SPOKED PROPELLER ASTERISKbHEAVY EIGHT TEARDROP-SP",
     "OKED PROPELLER ASTERISKbCROSS MARKbSHADOWED WHITE CIRCLEbNEGATIVE SQUARED CROSS MARKbLOWER RIGHT",
     " DROP-SHADOWED WHITE SQUAREbUPPER RIGHT DROP-SHADOWED WHITE SQUAREbLOWER RIGHT SHADOWED WHITE SQ",
     "UAREbUPPER RIGHT SHADOWED WHITE SQUAREbBLACK QUESTION MARK ORNAMENTbWHITE QUESTION MARK ORNAMENT",
     "btEXCLAMATION MARK ORNAMENTbBLACK DIAMOND MINUS WHITE XbHEAVY EXCLAMATION MARK SYMBOLbLIGHT VERT",
     "ICAL BARbMEDIUM VERTICAL BARbHEAVY VERTICAL BARbtSINGLE TURNED COMMA QUOTATION MARK ORNAMENTbonC",
     "OMMA QUOTATION MARK ORNAMENTbtDOUBLE TURNED COMMA QUOTATION MARK ORNAMENTbonCOMMA QUOTATION MARK",
     " ORNAMENTbtLOW SINGLE COMMA QUOTATION MARK ORNAMENTbxDOUBLE COMMA QUOTATION MARK ORNAMENTbCURVED",
     " STEM PARAGRAPH SIGN ORNAMENTbHEAVY EXCLAMATION MARK ORNAMENTbtHEART EXCLAMATION MARK ORNAMENTbt",
     "BLACK HEARTbROTATED HEAVY BLACK HEART BULLETbFLORAL HEARTbROTATED FLORAL HEART BULLETbMEDIUM LEF",
     "T PARENTHESIS ORNAMENTbuRIGHT PARENTHESIS ORNAMENTbuFLATTENED LEFT PARENTHESIS ORNAMENTborRIGHT ",
     "PARENTHESIS ORNAMENTbuLEFT-POINTING ANGLE BRACKET ORNAMENTbuRIGHT-POINTING ANGLE BRACKET ORNAMEN",
     "TbHEAVY LEFT-POINTING ANGLE QUOTATION MARK ORNAMENTbtRIGHT-POINTING ANGLE QUOTATION MARK ORNAMEN",
     "TbtLEFT-POINTING ANGLE BRACKET ORNAMENTbtRIGHT-POINTING ANGLE BRACKET ORNAMENTbLIGHT LEFT TORTOI",
     "SE SHELL BRACKET ORNAMENTbtRIGHT TORTOISE SHELL BRACKET ORNAMENTbMEDIUM LEFT CURLY BRACKET ORNAM",
     "ENTbuRIGHT CURLY BRACKET ORNAMENTbDINGBAT NEGATIVE CIRCLED DIGIT ONEbpsTWObptHREEbpsFOURbptIVEbp",
     "sSIXbptEVENbpsEIGHTbpsNINEbozNUMBER TENbvCIRCLED SANS-SERIF DIGIT ONEbpuTWObpvHREEbpuFOURbpvIVEb",
     "puSIXbpvEVENbpuEIGHTbpuNINEbpoNUMBER TENbvNEGATIVE CIRCLED SANS-SERIF DIGIT ONEbqqTWObqrHREEbqqF",
     "OURbqrIVEbqqSIXbqrEVENbqqEIGHTbqqNINEbpxNUMBER TENbHEAVY WIDE-HEADED RIGHTWARDS ARROWbtPLUS SIGN",
     "btMINUS SIGNbtDIVISION SIGNbtSOUTH EAST ARROWbtRIGHTWARDS ARROWbtNORTH EAST ARROWbDRAFTING POINT",
     " RIGHTWARDS ARROWbHEAVY ROUND-TIPPED RIGHTWARDS ARROWbTRIANGLE-HEADED RIGHTWARDS ARROWbHEAVY TRI",
     "ANGLE-HEADED RIGHTWARDS ARROWbDASHED TRIANGLE-HEADED RIGHTWARDS ARROWbHEAVY DASHED TRIANGLE-HEAD",
     "ED RIGHTWARDS ARROWbBLACK RIGHTWARDS ARROWbTHREE-D TOP-LIGHTED RIGHTWARDS ARROWHEADbvBOTTOM-LIGH",
     "TED RIGHTWARDS ARROWHEADbBLACK RIGHTWARDS ARROWHEADbHEAVY BLACK CURVED DOWNWARDS AND RIGHTWARDS ",
     "ARROWbotUPWARDS AND RIGHTWARDS ARROWbSQUAT BLACK RIGHTWARDS ARROWbHEAVY CONCAVE-POINTED BLACK RI",
     "GHTWARDS ARROWbRIGHT-SHADED WHITE RIGHTWARDS ARROWbLEFT-SHADED WHITE RIGHTWARDS ARROWbBACK-TILTE",
     "D SHADOWED WHITE RIGHTWARDS ARROWbFRONT-TILTED SHADOWED WHITE RIGHTWARDS ARROWbHEAVY LOWER RIGHT",
     "-SHADOWED WHITE RIGHTWARDS ARROWbtUPPER RIGHT-SHADOWED WHITE RIGHTWARDS ARROWbNOTCHED LOWER RIGH",
     "T-SHADOWED WHITE RIGHTWARDS ARROWbCURLY LOOPbNOTCHED UPPER RIGHT-SHADOWED WHITE RIGHTWARDS ARROW",
     "bCIRCLED HEAVY WHITE RIGHTWARDS ARROWbWHITE-FEATHERED RIGHTWARDS ARROWbBLACK-FEATHERED SOUTH EAS",
     "T ARROWboqRIGHTWARDS ARROWboqNORTH EAST ARROWbHEAVY BLACK-FEATHERED SOUTH EAST ARROWbowRIGHTWARD",
     "S ARROWbowNORTH EAST ARROWbTEARDROP-BARBED RIGHTWARDS ARROWbHEAVY TEARDROP-SHANKED RIGHTWARDS AR",
     "ROWbWEDGE-TAILED RIGHTWARDS ARROWbHEAVY WEDGE-TAILED RIGHTWARDS ARROWbOPEN-OUTLINED RIGHTWARDS A",
     "RROWbDOUBLE CURLY LOOPbTHREE DIMENSIONAL ANGLEbWHITE TRIANGLE CONTAINING SMALL WHITE TRIANGLEbPE",
     "RPENDICULARbOPEN SUBSETbuPERSETbLEFT S-SHAPED BAG DELIMITERbRIGHT S-SHAPED BAG DELIMITERbOR WITH",
     " DOT INSIDEbREVERSE SOLIDUS PRECEDING SUBSETbSUPERSET PRECEDING SOLIDUSbVERTICAL BAR WITH HORIZO",
     "NTAL STROKEbMATHEMATICAL RISING DIAGONALbLONG DIVISIONbMATHEMATICAL FALLING DIAGONALbSQUARED LOG",
     "ICAL ANDboqORbWHITE DIAMOND WITH CENTRED DOTbAND WITH DOTbELEMENT OF OPENING UPWARDSbLOWER RIGHT",
     " CORNER WITH DOTbUPPER LEFT CORNER WITH DOTbLEFT OUTER JOINbRIGHT OUTER JOINbFULL OUTER JOINbLAR",
     "GE UP TACKbtDOWN TACKboEFT AND RIGHT DOUBLE TURNSTILEbopTACKbsMULTIMAPboONG RIGHT TACKbsLEFT TAC",
     "KbUP TACK WITH CIRCLE ABOVEbLOZENGE DIVIDED BY HORIZONTAL RULEbWHITE CONCAVE-SIDED DIAMONDbpo WI",
     "TH LEFTWARDS TICKbpuRIGHTWARDS TICKbtSQUARE WITH LEFTWARDS TICKbosRIGHTWARDS TICKbMATHEMATICAL L",
     "EFT WHITE SQUARE BRACKETbonRIGHT WHITE SQUARE BRACKETbonLEFT ANGLE BRACKETbonRIGHT ANGLE BRACKET",
     "bonLEFT DOUBLE ANGLE BRACKETbonRIGHT DOUBLE ANGLE BRACKETbonLEFT WHITE TORTOISE SHELL BRACKETbon",
     "RIGHT WHITE TORTOISE SHELL BRACKETbonLEFT FLATTENED PARENTHESISbonRIGHT FLATTENED PARENTHESISbUP",
     "WARDS QUADRUPLE ARROWbDOWNWARDS QUADRUPLE ARROWbANTICLOCKWISE GAPPED CIRCLE ARROWbCLOCKWISE GAPP",
     "ED CIRCLE ARROWbRIGHT ARROW WITH CIRCLED PLUSbLONG LEFTWARDS ARROWbsRIGHTWARDS ARROWbsLEFT RIGHT",
     " ARROWbwWARDS DOUBLE ARROWbsRIGHTWARDS DOUBLE ARROWbsLEFT RIGHT DOUBLE ARROWbwWARDS ARROW FROM B",
     "ARbsRIGHTWARDS ARROW FROM BARbsLEFTWARDS DOUBLE ARROW FROM BARbsRIGHTWARDS DOUBLE ARROW FROM BAR",
     "boqSQUIGGLE ARROWbBRAILLE PATTERN BLANKboqDOTS-1bov2bov12bov3bov13bov23bov123bov4bov14bov24bov12",
     "4bov34bov134bov234bov1234bov5bov15bov25bov125bov35bov135bov235bov1235bov45bov145bov245bov1245bov",
     "345bov1345bov2345bov12345bov6bov16bov26bov126bov36bov136bov236bov1236bov46bov146bov246bov1246bov",
     "346bov1346bov2346bov12346bov56bov156bov256bov1256bov356bov1356bov2356bov12356bov456bov1456bov245",
     "6bov12456bov3456bov13456bov23456bov123456bov7bov17bov27bov127bov37bov137bov237bov1237bov47bov147",
     "bov247bov1247bov347bov1347bov2347bov12347bov57bov157bov257bov1257bov357bov1357bov2357bov12357bov",
     "457bov1457bov2457bov12457bov3457bov13457bov23457bov123457bov67bov167bov267bov1267bov367bov1367bo",
     "v2367bov12367bov467bov1467bov2467bov12467bov3467bov13467bov23467bov123467bov567bov1567bov2567bov",
     "12567bov3567bov13567bov23567bov123567bov4567bov14567bov24567bov124567bov34567bov134567bov234567b",
     "ov1234567bov8bov18bov28bov128bov38bov138bov238bov1238bov48bov148bov248bov1248bov348bov1348bov234",
     "8bov12348bov58bov158bov258bov1258bov358bov1358bov2358bov12358bov458bov1458bov2458bov12458bov3458",
     "bov13458bov23458bov123458bov68bov168bov268bov1268bov368bov1368bov2368bov12368bov468bov1468bov246",
     "8bov12468bov3468bov13468bov23468bov123468bov568bov1568bov2568bov12568bov3568bov13568bov23568bov1",
     "23568bov4568bov14568bov24568bov124568bov34568bov134568bov234568bov1234568bov78bov178bov278bov127",
     "8bov378bov1378bov2378bov12378bov478bov1478bov2478bov12478bov3478bov13478bov23478bov123478bov578b",
     "ov1578bov2578bov12578bov3578bov13578bov23578bov123578bov4578bov14578bov24578bov124578bov34578bov",
     "134578bov234578bov1234578bov678bov1678bov2678bov12678bov3678bov13678bov23678bov123678bov4678bov1",
     "4678bov24678bov124678bov34678bov134678bov234678bov1234678bov5678bov15678bov25678bov125678bov3567",
     "8bov135678bov235678bov1235678bov45678bov145678bov245678bov1245678bov345678bov1345678bov2345678bo",
     "v12345678bRIGHTWARDS TWO-HEADED ARROW WITH VERTICAL STROKEbpuDOUBLE VERTICAL STROKEbLEFTWARDS DO",
     "UBLE ARROW WITH VERTICAL STROKEbRIGHTWARDS DOUBLE ARROW WITH VERTICAL STROKEbLEFT RIGHT DOUBLE A",
     "RROW WITH VERTICAL STROKEbRIGHTWARDS TWO-HEADED ARROW FROM BARbLEFTWARDS DOUBLE ARROW FROM BARbR",
     "IGHTWARDS DOUBLE ARROW FROM BARbDOWNWARDS ARROW WITH HORIZONTAL STROKEbUPWARDS ARROW WITH HORIZO",
     "NTAL STROKEbvTRIPLE ARROWbDOWNWARDS TRIPLE ARROWbLEFTWARDS DOUBLE DASH ARROWbRIGHTWARDS DOUBLE D",
     "ASH ARROWbLEFTWARDS TRIPLE DASH ARROWbRIGHTWARDS TRIPLE DASH ARROWbzWO-HEADED TRIPLE DASH ARROWb",
     "yARROW WITH DOTTED STEMbUPWARDS ARROW TO BARbDOWNWARDS ARROW TO BARbRIGHTWARDS ARROW WITH TAIL W",
     "ITH VERTICAL STROKEbptDOUBLE VERTICAL STROKEbyTWO-HEADED ARROW WITH TAILbpy WITH VERTICAL STROKE",
     "bqrDOUBLE VERTICAL STROKEbLEFTWARDS ARROW-TAILbRIGHTWARDS ARROW-TAILbLEFTWARDS DOUBLE ARROW-TAIL",
     "bRIGHTWARDS DOUBLE ARROW-TAILbLEFTWARDS ARROW TO BLACK DIAMONDbRIGHTWARDS ARROW TO BLACK DIAMOND",
     "bLEFTWARDS ARROW FROM BAR TO BLACK DIAMONDbRIGHTWARDS ARROW FROM BAR TO BLACK DIAMONDbNORTH WEST",
     " AND SOUTH EAST ARROWbtEAST AND SOUTH WEST ARROWbtWEST ARROW WITH HOOKbtEAST ARROW WITH HOOKbSOU",
     "TH EAST ARROW WITH HOOKbtWEST ARROW WITH HOOKbNORTH WEST ARROW AND NORTH EAST ARROWbtEAST ARROW ",
     "AND SOUTH EAST ARROWbSOUTH EAST ARROW AND SOUTH WEST ARROWbtWEST ARROW AND NORTH WEST ARROWbRISI",
     "NG DIAGONAL CROSSING FALLING DIAGONALbFALLING DIAGONAL CROSSING RISING DIAGONALbSOUTH EAST ARROW",
     " CROSSING NORTH EAST ARROWbNORTH EAST ARROW CROSSING SOUTH EAST ARROWbFALLING DIAGONAL CROSSING ",
     "NORTH EAST ARROWbRISING DIAGONAL CROSSING SOUTH EAST ARROWbNORTH EAST ARROW CROSSING NORTH WEST ",
     "ARROWbtWEST ARROW CROSSING NORTH EAST ARROWbWAVE ARROW POINTING DIRECTLY RIGHTbARROW POINTING RI",
     "GHTWARDS THEN CURVING UPWARDSbqnDOWNWARDSbopDOWNWARDS THEN CURVING LEFTWARDSbpzRIGHTWARDSbRIGHT-",
     "SIDE ARC CLOCKWISE ARROWbLEFT-SIDE ARC ANTICLOCKWISE ARROWbTOP ARC ANTICLOCKWISE ARROWbBOTTOM AR",
     "C ANTICLOCKWISE ARROWbTOP ARC CLOCKWISE ARROW WITH MINUSbvANTICLOCKWISE ARROW WITH PLUSbLOWER RI",
     "GHT SEMICIRCULAR CLOCKWISE ARROWbtLEFT SEMICIRCULAR ANTICLOCKWISE ARROWbANTICLOCKWISE CLOSED CIR",
     "CLE ARROWbCLOCKWISE CLOSED CIRCLE ARROWbRIGHTWARDS ARROW ABOVE SHORT LEFTWARDS ARROWbLEFTWARDS A",
     "RROW ABOVE SHORT RIGHTWARDS ARROWbSHORT RIGHTWARDS ARROW ABOVE LEFTWARDS ARROWbRIGHTWARDS ARROW ",
     "WITH PLUS BELOWbLEFTWARDS ARROW WITH PLUS BELOWbRIGHTWARDS ARROW THROUGH XbLEFT RIGHT ARROW THRO",
     "UGH SMALL CIRCLEbUPWARDS TWO-HEADED ARROW FROM SMALL CIRCLEbLEFT BARB UP RIGHT BARB DOWN HARPOON",
     "bxDOWN RIGHT BARB UP HARPOONbUP BARB RIGHT DOWN BARB LEFT HARPOONbvLEFT DOWN BARB RIGHT HARPOONb",
     "LEFT BARB UP RIGHT BARB UP HARPOONbUP BARB RIGHT DOWN BARB RIGHT HARPOONbLEFT BARB DOWN RIGHT BA",
     "RB DOWN HARPOONbUP BARB LEFT DOWN BARB LEFT HARPOONbLEFTWARDS HARPOON WITH BARB UP TO BARbRIGHTW",
     "ARDS HARPOON WITH BARB UP TO BARbUPWARDS HARPOON WITH BARB RIGHT TO BARbDOWNWARDS HARPOON WITH B",
     "ARB RIGHT TO BARbLEFTWARDS HARPOON WITH BARB DOWN TO BARbRIGHTWARDS HARPOON WITH BARB DOWN TO BA",
     "RbUPWARDS HARPOON WITH BARB LEFT TO BARbDOWNWARDS HARPOON WITH BARB LEFT TO BARbLEFTWARDS HARPOO",
     "N WITH BARB UP FROM BARbRIGHTWARDS HARPOON WITH BARB UP FROM BARbUPWARDS HARPOON WITH BARB RIGHT",
     " FROM BARbDOWNWARDS HARPOON WITH BARB RIGHT FROM BARbLEFTWARDS HARPOON WITH BARB DOWN FROM BARbR",
     "IGHTWARDS HARPOON WITH BARB DOWN FROM BARbUPWARDS HARPOON WITH BARB LEFT FROM BARbDOWNWARDS HARP",
     "OON WITH BARB LEFT FROM BARbLEFTWARDS HARPOON WITH BARB UP ABOVE LEFTWARDS HARPOON WITH BARB DOW",
     "NbUPWARDS HARPOON WITH BARB LEFT BESIDE UPWARDS HARPOON WITH BARB RIGHTbRIGHTWARDS HARPOON WITH ",
     "BARB UP ABOVE RIGHTWARDS HARPOON WITH BARB DOWNbDOWNWARDS HARPOON WITH BARB LEFT BESIDE DOWNWARD",
     "S HARPOON WITH BARB RIGHTbLEFTWARDS HARPOON WITH BARB UP ABOVE RIGHTWARDS HARPOON WITH BARB UPbp",
     "pDOWN ABOVE RIGHTWARDS HARPOON WITH BARB DOWNbRIGHTWARDS HARPOON WITH BARB UP ABOVE LEFTWARDS HA",
     "RPOON WITH BARB UPbpqDOWN ABOVE LEFTWARDS HARPOON WITH BARB DOWNbLEFTWARDS HARPOON WITH BARB UP ",
     "ABOVE LONG DASHbppDOWN BELOW LONG DASHbRIGHTWARDS HARPOON WITH BARB UP ABOVE LONG DASHbpqDOWN BE",
     "LOW LONG DASHbUPWARDS HARPOON WITH BARB LEFT BESIDE DOWNWARDS HARPOON WITH BARB RIGHTbDOWNWARDS ",
     "HARPOON WITH BARB LEFT BESIDE UPWARDS HARPOON WITH BARB RIGHTbRIGHT DOUBLE ARROW WITH ROUNDED HE",
     "ADbEQUALS SIGN ABOVE RIGHTWARDS ARROWbTILDE OPERATOR ABOVE RIGHTWARDS ARROWbLEFTWARDS ARROW ABOV",
     "E TILDE OPERATORbRIGHTWARDS ARROW ABOVE TILDE OPERATORboxALMOST EQUAL TObLESS-THAN ABOVE LEFTWAR",
     "DS ARROWbpFTWARDS ARROW THROUGH LESS-THANbGREATER-THAN ABOVE RIGHTWARDS ARROWbSUBSET ABOVE RIGHT",
     "WARDS ARROWbLEFTWARDS ARROW THROUGH SUBSETbSUPERSET ABOVE LEFTWARDS ARROWbLEFT FISH TAILbRIGHT F",
     "ISH TAILbUP FISH TAILbDOWN FISH TAILbTRIPLE VERTICAL BAR DELIMITERbZ NOTATION SPOTbyTYPE COLONbL",
     "EFT WHITE CURLY BRACKETbRIGHT WHITE CURLY BRACKETbLEFT WHITE PARENTHESISbRIGHT WHITE PARENTHESIS",
     "bZ NOTATION LEFT IMAGE BRACKETbyRIGHT IMAGE BRACKETbyLEFT BINDING BRACKETbyRIGHT BINDING BRACKET",
     "bLEFT SQUARE BRACKET WITH UNDERBARbRIGHT SQUARE BRACKET WITH UNDERBARbLEFT SQUARE BRACKET WITH T",
     "ICK IN TOP CORNERbRIGHT SQUARE BRACKET WITH TICK IN BOTTOM CORNERbLEFT SQUARE BRACKET WITH TICK ",
     "IN BOTTOM CORNERbRIGHT SQUARE BRACKET WITH TICK IN TOP CORNERbLEFT ANGLE BRACKET WITH DOTbRIGHT ",
     "ANGLE BRACKET WITH DOTbLEFT ARC LESS-THAN BRACKETbRIGHT ARC GREATER-THAN BRACKETbDOUBLE LEFT ARC",
     " GREATER-THAN BRACKETbuRIGHT ARC LESS-THAN BRACKETbLEFT BLACK TORTOISE SHELL BRACKETbRIGHT BLACK",
     " TORTOISE SHELL BRACKETbDOTTED FENCEbVERTICAL ZIGZAG LINEbMEASURED ANGLE OPENING LEFTbRIGHT ANGL",
     "E VARIANT WITH SQUAREbMEASURED RIGHT ANGLE WITH DOTbANGLE WITH S INSIDEboCUTE ANGLEbSPHERICAL AN",
     "GLE OPENING LEFTboyUPbTURNED ANGLEbREVERSED ANGLEbANGLE WITH UNDERBARbREVERSED ANGLE WITH UNDERB",
     "ARbOBLIQUE ANGLE OPENING UPbowDOWNbMEASURED ANGLE WITH OPEN ARM ENDING IN ARROW POINTING UP AND ",
     "RIGHTbrwLEFTbrpDOWN AND RIGHTbryLEFTbrpRIGHT AND UPbrpLEFT AND UPbrpRIGHT AND DOWNbrpLEFT AND DO",
     "WNbREVERSED EMPTY SETbEMPTY SET WITH OVERBARbopSMALL CIRCLE ABOVEbopRIGHT ARROW ABOVEbopLEFT ARR",
     "OW ABOVEbCIRCLE WITH HORIZONTAL BARbtD VERTICAL BARbvPARALLELbvREVERSE SOLIDUSbvPERPENDICULARbt ",
     "DIVIDED BY HORIZONTAL BAR AND TOP HALF DIVIDED BY VERTICAL BARbuWITH SUPERIMPOSED XbtD ANTICLOCK",
     "WISE-ROTATED DIVISION SIGNbUP ARROW THROUGH CIRCLEbCIRCLED WHITE BULLETbvBULLETbvLESS-THANbvGREA",
     "TER-THANbt WITH SMALL CIRCLE TO THE RIGHTbzTWO HORIZONTAL STROKES TO THE RIGHTbSQUARED RISING DI",
     "AGONAL SLASHbvFALLING DIAGONAL SLASHbvASTERISKbvSMALL CIRCLEbwQUAREbTWO JOINED SQUARESboRIANGLE ",
     "WITH DOT ABOVEbooUNDERBARbS IN TRIANGLEbTRIANGLE WITH SERIFS AT BOTTOMbRIGHT TRIANGLE ABOVE LEFT",
     " TRIANGLEbLEFT TRIANGLE BESIDE VERTICAL BARbVERTICAL BAR BESIDE RIGHT TRIANGLEbBOWTIE WITH LEFT ",
     "HALF BLACKbzRIGHT HALF BLACKboLACK BOWTIEbTIMES WITH LEFT HALF BLACKbyRIGHT HALF BLACKbWHITE HOU",
     "RGLASSbBLACK HOURGLASSbLEFT WIGGLY FENCEbRIGHT WIGGLY FENCEbLEFT DOUBLE WIGGLY FENCEbRIGHT DOUBL",
     "E WIGGLY FENCEbINCOMPLETE INFINITYbTIE OVER INFINITYbINFINITY NEGATED WITH VERTICAL BARbDOUBLE-E",
     "NDED MULTIMAPbSQUARE WITH CONTOURED OUTLINEbINCREASES ASbSHUFFLE PRODUCTbEQUALS SIGN AND SLANTED",
     " PARALLELbpt WITH TILDE ABOVEbIDENTICAL TO AND SLANTED PARALLELbGLEICH STARKbTHERMODYNAMICbDOWN-",
     "POINTING TRIANGLE WITH LEFT HALF BLACKbppRIGHT HALF BLACKbBLACK DIAMOND WITH DOWN ARROWbtLOZENGE",
     "bWHITE CIRCLE WITH DOWN ARROWbBLACK CIRCLE WITH DOWN ARROWbERROR-BARRED WHITE SQUAREbonBLACK SQU",
     "AREbonWHITE DIAMONDbonBLACK DIAMONDbonWHITE CIRCLEbonBLACK CIRCLEbRULE-DELAYEDboEVERSE SOLIDUS O",
     "PERATORbSOLIDUS WITH OVERBARbREVERSE SOLIDUS WITH HORIZONTAL STROKEbBIG SOLIDUSbrREVERSE SOLIDUS",
     "bDOUBLE PLUSbTRIPLE PLUSbLEFT-POINTING CURVED ANGLE BRACKETbRIGHT-POINTING CURVED ANGLE BRACKETb",
     "TINYbMINYbN-ARY CIRCLED DOT OPERATORbooPLUS OPERATORbooTIMES OPERATORbtUNION OPERATOR WITH DOTbp",
     "nPLUSbtSQUARE INTERSECTION OPERATORbonUNION OPERATORbTWO LOGICAL AND OPERATORbzOR OPERATORbN-ARY",
     " TIMES OPERATORbMODULO TWO SUMbSUMMATION WITH INTEGRALbQUADRUPLE INTEGRAL OPERATORbFINITE PART I",
     "NTEGRALbINTEGRAL WITH DOUBLE STROKEbwAVERAGE WITH SLASHbCIRCULATION FUNCTIONbANTICLOCKWISE INTEG",
     "RATIONbLINE INTEGRATION WITH RECTANGULAR PATH AROUND POLEbowSEMICIRCULAR PATH AROUND POLEborNOT ",
     "INCLUDING THE POLEbINTEGRAL AROUND A POINT OPERATORbQUATERNION INTEGRAL OPERATORbINTEGRAL WITH L",
     "EFTWARDS ARROW WITH HOOKbooTIMES SIGNbooINTERSECTIONbooUNIONbooOVERBARbooUNDERBARbJOINbLARGE LEF",
     "T TRIANGLE OPERATORbZ NOTATION SCHEMA COMPOSITIONbosPIPINGbotROJECTIONbPLUS SIGN WITH SMALL CIRC",
     "LE ABOVEbopCIRCUMFLEX ACCENT ABOVEbopTILDE ABOVEbopDOT BELOWbopTILDE BELOWbopSUBSCRIPT TWObopBLA",
     "CK TRIANGLEbMINUS SIGN WITH COMMA ABOVEboqDOT BELOWboqFALLING DOTSboqRISING DOTSbPLUS SIGN IN LE",
     "FT HALF CIRCLEbonRIGHT HALF CIRCLEbVECTOR OR CROSS PRODUCTbMULTIPLICATION SIGN WITH DOT ABOVEboz",
     "UNDERBARbSEMIDIRECT PRODUCT WITH BOTTOM CLOSEDboMASH PRODUCTbMULTIPLICATION SIGN IN LEFT HALF CI",
     "RCLEboxRIGHT HALF CIRCLEbCIRCLED MULTIPLICATION SIGN WITH CIRCUMFLEX ACCENTbMULTIPLICATION SIGN ",
     "IN DOUBLE CIRCLEbCIRCLED DIVISION SIGNbPLUS SIGN IN TRIANGLEbMINUS SIGN IN TRIANGLEboULTIPLICATI",
     "ON SIGN IN TRIANGLEbINTERIOR PRODUCTbRIGHTHAND INTERIOR PRODUCTbZ NOTATION RELATIONAL COMPOSITIO",
     "NbAMALGAMATION OR COPRODUCTbINTERSECTION WITH DOTbUNION WITH MINUS SIGNbyOVERBARbINTERSECTION WI",
     "TH OVERBARbosLOGICAL ANDbUNION WITH LOGICAL ORbtABOVE INTERSECTIONbINTERSECTION ABOVE UNIONbUNIO",
     "N ABOVE BAR ABOVE INTERSECTIONbINTERSECTION ABOVE BAR ABOVE UNIONbUNION BESIDE AND JOINED WITH U",
     "NIONbINTERSECTION BESIDE AND JOINED WITH INTERSECTIONbCLOSED UNION WITH SERIFSbuINTERSECTION WIT",
     "H SERIFSbDOUBLE SQUARE INTERSECTIONbooUNIONbCLOSED UNION WITH SERIFS AND SMASH PRODUCTbLOGICAL A",
     "ND WITH DOT ABOVEbvOR WITH DOT ABOVEbDOUBLE LOGICAL ANDbopORbTWO INTERSECTING LOGICAL ANDbozORbS",
     "LOPING LARGE ORbooANDbLOGICAL OR OVERLAPPING LOGICAL ANDbvAND WITH MIDDLE STEMbvOR WITH MIDDLE S",
     "TEMbvAND WITH HORIZONTAL DASHbvOR WITH HORIZONTAL DASHbvAND WITH DOUBLE OVERBARborUNDERBARborDOU",
     "BLE UNDERBARbSMALL VEE WITH UNDERBARbLOGICAL OR WITH DOUBLE OVERBARboxUNDERBARbZ NOTATION DOMAIN",
     " ANTIRESTRICTIONbyRANGE ANTIRESTRICTIONbEQUALS SIGN WITH DOT BELOWbIDENTICAL WITH DOT ABOVEbTRIP",
     "LE HORIZONTAL BAR WITH DOUBLE VERTICAL STROKEbpoTRIPLE VERTICAL STROKEboILDE OPERATOR WITH DOT A",
     "BOVEbouRISING DOTSbSIMILAR MINUS SIMILARbCONGRUENT WITH DOT ABOVEbEQUALS WITH ASTERISKbALMOST EQ",
     "UAL TO WITH CIRCUMFLEX ACCENTboPPROXIMATELY EQUAL OR EQUAL TObEQUALS SIGN ABOVE PLUS SIGNbPLUS S",
     "IGN ABOVE EQUALS SIGNbEQUALS SIGN ABOVE TILDE OPERATORbDOUBLE COLON EQUALbTWO CONSECUTIVE EQUALS",
     " SIGNSboHREE CONSECUTIVE EQUALS SIGNSbEQUALS SIGN WITH TWO DOTS ABOVE AND TWO DOTS BELOWbqIVALEN",
     "T WITH FOUR DOTS ABOVEbLESS-THAN WITH CIRCLE INSIDEbGREATER-THAN WITH CIRCLE INSIDEbLESS-THAN WI",
     "TH QUESTION MARK ABOVEbGREATER-THAN WITH QUESTION MARK ABOVEbLESS-THAN OR SLANTED EQUAL TObGREAT",
     "ER-THAN OR SLANTED EQUAL TObLESS-THAN OR SLANTED EQUAL TO WITH DOT INSIDEbGREATER-THAN OR SLANTE",
     "D EQUAL TO WITH DOT INSIDEbLESS-THAN OR SLANTED EQUAL TO WITH DOT ABOVEbGREATER-THAN OR SLANTED ",
     "EQUAL TO WITH DOT ABOVEbLESS-THAN OR SLANTED EQUAL TO WITH DOT ABOVE RIGHTbGREATER-THAN OR SLANT",
     "ED EQUAL TO WITH DOT ABOVE LEFTbLESS-THAN OR APPROXIMATEbGREATER-THAN OR APPROXIMATEbLESS-THAN A",
     "ND SINGLE-LINE NOT EQUAL TObGREATER-THAN AND SINGLE-LINE NOT EQUAL TObLESS-THAN AND NOT APPROXIM",
     "ATEbGREATER-THAN AND NOT APPROXIMATEbLESS-THAN ABOVE DOUBLE-LINE EQUAL ABOVE GREATER-THANbGREATE",
     "R-THAN ABOVE DOUBLE-LINE EQUAL ABOVE LESS-THANbLESS-THAN ABOVE SIMILAR OR EQUALbGREATER-THAN ABO",
     "VE SIMILAR OR EQUALbLESS-THAN ABOVE SIMILAR ABOVE GREATER-THANbGREATER-THAN ABOVE SIMILAR ABOVE ",
     "LESS-THANbLESS-THAN ABOVE GREATER-THAN ABOVE DOUBLE-LINE EQUALbGREATER-THAN ABOVE LESS-THAN ABOV",
     "E DOUBLE-LINE EQUALbLESS-THAN ABOVE SLANTED EQUAL ABOVE GREATER-THAN ABOVE SLANTED EQUALbGREATER",
     "-THAN ABOVE SLANTED EQUAL ABOVE LESS-THAN ABOVE SLANTED EQUALbSLANTED EQUAL TO OR LESS-THANbouGR",
     "EATER-THANbouLESS-THAN WITH DOT INSIDEbouGREATER-THAN WITH DOT INSIDEbDOUBLE-LINE EQUAL TO OR LE",
     "SS-THANboyGREATER-THANbzSLANTED EQUAL TO OR LESS-THANbptGREATER-THANbSIMILAR OR LESS-THANbyGREAT",
     "ER-THANbvABOVE LESS-THAN ABOVE EQUALS SIGNbooGREATER-THAN ABOVE EQUALS SIGNbDOUBLE NESTED LESS-T",
     "HANbooGREATER-THANbooLESS-THAN WITH UNDERBARbGREATER-THAN OVERLAPPING LESS-THANbonBESIDE LESS-TH",
     "ANbLESS-THAN CLOSED BY CURVEbGREATER-THAN CLOSED BY CURVEbLESS-THAN CLOSED BY CURVE ABOVE SLANTE",
     "D EQUALbGREATER-THAN CLOSED BY CURVE ABOVE SLANTED EQUALbSMALLER THANbLARGER THANbSMALLER THAN O",
     "R EQUAL TObLARGER THAN OR EQUAL TObEQUALS SIGN WITH BUMPY ABOVEbPRECEDES ABOVE SINGLE-LINE EQUAL",
     "S SIGNbSUCCEEDS ABOVE SINGLE-LINE EQUALS SIGNbPRECEDES ABOVE SINGLE-LINE NOT EQUAL TObSUCCEEDS A",
     "BOVE SINGLE-LINE NOT EQUAL TObPRECEDES ABOVE EQUALS SIGNbSUCCEEDS ABOVE EQUALS SIGNbPRECEDES ABO",
     "VE NOT EQUAL TObSUCCEEDS ABOVE NOT EQUAL TObPRECEDES ABOVE ALMOST EQUAL TObSUCCEEDS ABOVE ALMOST",
     " EQUAL TObPRECEDES ABOVE NOT ALMOST EQUAL TObSUCCEEDS ABOVE NOT ALMOST EQUAL TObDOUBLE PRECEDESb",
     "uSUCCEEDSbSUBSET WITH DOTbpPERSET WITH DOTbpBSET WITH PLUS SIGN BELOWbpPERSET WITH PLUS SIGN BEL",
     "OWbpBSET WITH MULTIPLICATION SIGN BELOWbpPERSET WITH MULTIPLICATION SIGN BELOWbpBSET OF OR EQUAL",
     " TO WITH DOT ABOVEbpPERSET OF OR EQUAL TO WITH DOT ABOVEbpBSET OF ABOVE EQUALS SIGNbpPERSET OF A",
     "BOVE EQUALS SIGNbpBSET OF ABOVE TILDE OPERATORbpPERSET OF ABOVE TILDE OPERATORbpBSET OF ABOVE AL",
     "MOST EQUAL TObpPERSET OF ABOVE ALMOST EQUAL TObpBSET OF ABOVE NOT EQUAL TObpPERSET OF ABOVE NOT ",
     "EQUAL TOboQUARE LEFT OPEN BOX OPERATORbuRIGHT OPEN BOX OPERATORbCLOSED SUBSETbwPERSETbwBSET OR E",
     "QUAL TObwPERSET OR EQUAL TObSUBSET ABOVE SUPERSETbpPERSET ABOVE SUBSETbpBSET ABOVE SUBSETbpPERSE",
     "T ABOVE SUPERSETbwBESIDE SUBSETboqAND JOINED BY DASH WITH SUBSETbELEMENT OF OPENING DOWNWARDSbPI",
     "TCHFORK WITH TEE TOPbTRANSVERSAL INTERSECTIONbFORKINGbNONFORKINGbSHORT LEFT TACKbtDOWN TACKbtUP ",
     "TACKbPERPENDICULAR WITH SbVERTICAL BAR TRIPLE RIGHT TURNSTILEbDOUBLE VERTICAL BAR LEFT TURNSTILE",
     "bVERTICAL BAR DOUBLE LEFT TURNSTILEbDOUBLE VERTICAL BAR DOUBLE LEFT TURNSTILEbLONG DASH FROM LEF",
     "T MEMBER OF DOUBLE VERTICALbSHORT DOWN TACK WITH OVERBARbtUP TACK WITH UNDERBARbooABOVE SHORT DO",
     "WN TACKbDOUBLE DOWN TACKbuUP TACKbuSTROKE NOT SIGNbREVERSED DOUBLE STROKE NOT SIGNbDOES NOT DIVI",
     "DE WITH REVERSED NEGATION SLASHbVERTICAL LINE WITH CIRCLE ABOVEbpnBELOWbDOWN TACK WITH CIRCLE BE",
     "LOWbPARALLEL WITH HORIZONTAL STROKEbooTILDE OPERATORbTRIPLE VERTICAL BAR BINARY RELATIONbouWITH ",
     "HORIZONTAL STROKEbuCOLON OPERATORbuNESTED LESS-THANbooGREATER-THANbDOUBLE-LINE SLANTED LESS-THAN",
     " OR EQUAL TObouGREATER-THAN OR EQUAL TObTRIPLE SOLIDUS BINARY RELATIONbLARGE TRIPLE VERTICAL BAR",
     " OPERATORbDOUBLE SOLIDUS OPERATORbWHITE VERTICAL BARbN-ARY WHITE VERTICAL BARboORTH EAST WHITE A",
     "RROWbtWEST WHITE ARROWbSOUTH EAST WHITE ARROWbtWEST WHITE ARROWbLEFT RIGHT WHITE ARROWbrWARDS BL",
     "ACK ARROWbUPWARDS BLACK ARROWbDOWNWARDS BLACK ARROWbNORTH EAST BLACK ARROWbtWEST BLACK ARROWbSOU",
     "TH EAST BLACK ARROWbtWEST BLACK ARROWbLEFT RIGHT BLACK ARROWbUP DOWN BLACK ARROWbRIGHTWARDS ARRO"]

def characterNameRecordsPart6 : String :=
  String.join
    ["W WITH TIP DOWNWARDSbpnUPWARDSbLEFTWARDS ARROW WITH TIP DOWNWARDSbozUPWARDSbSQUARE WITH TOP HALF",
     " BLACKbzBOTTOM HALF BLACKbzUPPER RIGHT DIAGONAL HALF BLACKbzLOWER LEFT DIAGONAL HALF BLACKbDIAMO",
     "ND WITH LEFT HALF BLACKbonRIGHT HALF BLACKbonTOP HALF BLACKbonBOTTOM HALF BLACKboOTTED SQUAREbBL",
     "ACK LARGE SQUAREbWHITE LARGE SQUAREbBLACK VERY SMALL SQUAREbWHITE VERY SMALL SQUAREbBLACK PENTAG",
     "ONbWHITE PENTAGONbtHEXAGONbBLACK HEXAGONbHORIZONTAL BLACK HEXAGONbBLACK LARGE CIRCLEbtMEDIUM DIA",
     "MONDbWHITE MEDIUM DIAMONDbBLACK MEDIUM LOZENGEbWHITE MEDIUM LOZENGEbBLACK SMALL DIAMONDbzLOZENGE",
     "bWHITE SMALL LOZENGEbBLACK HORIZONTAL ELLIPSEbWHITE HORIZONTAL ELLIPSEbBLACK VERTICAL ELLIPSEbWH",
     "ITE VERTICAL ELLIPSEbLEFT ARROW WITH SMALL CIRCLEbTHREE LEFTWARDS ARROWSbLEFT ARROW WITH CIRCLED",
     " PLUSboONG LEFTWARDS SQUIGGLE ARROWboEFTWARDS TWO-HEADED ARROW WITH VERTICAL STROKEbptDOUBLE VER",
     "TICAL STROKEbpoFROM BARbovTRIPLE DASH ARROWbxARROW WITH DOTTED STEMbovTAIL WITH VERTICAL STROKEb",
     "psDOUBLE VERTICAL STROKEbxTWO-HEADED ARROW WITH TAILbpx WITH VERTICAL STROKEbqqDOUBLE VERTICAL S",
     "TROKEbxARROW THROUGH XbWAVE ARROW POINTING DIRECTLY LEFTbEQUALS SIGN ABOVE LEFTWARDS ARROWbREVER",
     "SE TILDE OPERATOR ABOVE LEFTWARDS ARROWbLEFTWARDS ARROW ABOVE REVERSE ALMOST EQUAL TObRIGHTWARDS",
     " ARROW THROUGH GREATER-THANbozSUPERSETbLEFTWARDS QUADRUPLE ARROWbRIGHTWARDS QUADRUPLE ARROWboEVE",
     "RSE TILDE OPERATOR ABOVE RIGHTWARDS ARROWboIGHTWARDS ARROW ABOVE REVERSE ALMOST EQUAL TObTILDE O",
     "PERATOR ABOVE LEFTWARDS ARROWbLEFTWARDS ARROW ABOVE ALMOST EQUAL TObowREVERSE TILDE OPERATORbRIG",
     "HTWARDS ARROW ABOVE REVERSE TILDE OPERATORbDOWNWARDS TRIANGLE-HEADED ZIGZAG ARROWbSHORT SLANTED ",
     "NORTH ARROWbtBACKSLANTED SOUTH ARROWbWHITE MEDIUM STARbBLACK SMALL STARbWHITE SMALL STARbBLACK R",
     "IGHT-POINTING PENTAGONbWHITE RIGHT-POINTING PENTAGONbHEAVY LARGE CIRCLEbtOVAL WITH OVAL INSIDEbt",
     "CIRCLE WITH CIRCLE INSIDEbzbzD SALTIREbSLANTED NORTH ARROW WITH HOOKED HEADbBACKSLANTED SOUTH AR",
     "ROW WITH HOOKED TAILbSLANTED NORTH ARROW WITH HORIZONTAL TAILbBACKSLANTED SOUTH ARROW WITH HORIZ",
     "ONTAL TAILboENT ARROW POINTING DOWNWARDS THEN NORTH EASTbSHORT BENT ARROW POINTING DOWNWARDS THE",
     "N NORTH EASTbLEFTWARDS TRIANGLE-HEADED ARROWbUPWARDS TRIANGLE-HEADED ARROWbRIGHTWARDS TRIANGLE-H",
     "EADED ARROWbDOWNWARDS TRIANGLE-HEADED ARROWbLEFT RIGHT TRIANGLE-HEADED ARROWbUP DOWN TRIANGLE-HE",
     "ADED ARROWbNORTH WEST TRIANGLE-HEADED ARROWbtEAST TRIANGLE-HEADED ARROWbSOUTH EAST TRIANGLE-HEAD",
     "ED ARROWbtWEST TRIANGLE-HEADED ARROWbLEFTWARDS TRIANGLE-HEADED DASHED ARROWbUPWARDS TRIANGLE-HEA",
     "DED DASHED ARROWbRIGHTWARDS TRIANGLE-HEADED DASHED ARROWbDOWNWARDS TRIANGLE-HEADED DASHED ARROWb",
     "CLOCKWISE TRIANGLE-HEADED OPEN CIRCLE ARROWbANTICLOCKWISE TRIANGLE-HEADED OPEN CIRCLE ARROWbLEFT",
     "WARDS TRIANGLE-HEADED ARROW TO BARbUPWARDS TRIANGLE-HEADED ARROW TO BARbRIGHTWARDS TRIANGLE-HEAD",
     "ED ARROW TO BARbDOWNWARDS TRIANGLE-HEADED ARROW TO BARdNORTH WEST TRIANGLE-HEADED ARROW TO BARbt",
     "EAST TRIANGLE-HEADED ARROW TO BARbSOUTH EAST TRIANGLE-HEADED ARROW TO BARbtWEST TRIANGLE-HEADED ",
     "ARROW TO BARbLEFTWARDS TRIANGLE-HEADED ARROW WITH DOUBLE HORIZONTAL STROKEbUPWARDS TRIANGLE-HEAD",
     "ED ARROW WITH DOUBLE HORIZONTAL STROKEbRIGHTWARDS TRIANGLE-HEADED ARROW WITH DOUBLE HORIZONTAL S",
     "TROKEbDOWNWARDS TRIANGLE-HEADED ARROW WITH DOUBLE HORIZONTAL STROKEbHORIZONTAL TAB KEYbVERTICAL ",
     "TAB KEYbLEFTWARDS TRIANGLE-HEADED ARROW OVER RIGHTWARDS TRIANGLE-HEADED ARROWbUPWARDS TRIANGLE-H",
     "EADED ARROW LEFTWARDS OF DOWNWARDS TRIANGLE-HEADED ARROWbRIGHTWARDS TRIANGLE-HEADED ARROW OVER L",
     "EFTWARDS TRIANGLE-HEADED ARROWbDOWNWARDS TRIANGLE-HEADED ARROW LEFTWARDS OF UPWARDS TRIANGLE-HEA",
     "DED ARROWbLEFTWARDS TRIANGLE-HEADED PAIRED ARROWSbUPWARDS TRIANGLE-HEADED PAIRED ARROWSbRIGHTWAR",
     "DS TRIANGLE-HEADED PAIRED ARROWSbDOWNWARDS TRIANGLE-HEADED PAIRED ARROWSbLEFTWARDS BLACK CIRCLED",
     " WHITE ARROWbUPWARDS BLACK CIRCLED WHITE ARROWbRIGHTWARDS BLACK CIRCLED WHITE ARROWbDOWNWARDS BL",
     "ACK CIRCLED WHITE ARROWbANTICLOCKWISE TRIANGLE-HEADED RIGHT U-SHAPED ARROWbprBOTTOM U-SHAPED ARR",
     "OWbprLEFT U-SHAPED ARROWbprTOP U-SHAPED ARROWbRETURN LEFTbuRIGHTbNEWLINE LEFTbvRIGHTbFOUR CORNER",
     " ARROWS CIRCLING ANTICLOCKWISEbRIGHTWARDS BLACK ARROWcSYMBOL FOR TYPE A ELECTRONICSbTHREE-D TOP-",
     "LIGHTED LEFTWARDS EQUILATERAL ARROWHEADbvRIGHT-LIGHTED UPWARDS EQUILATERAL ARROWHEADbvTOP-LIGHTE",
     "D RIGHTWARDS EQUILATERAL ARROWHEADbvLEFT-LIGHTED DOWNWARDS EQUILATERAL ARROWHEADbBLACK LEFTWARDS",
     " EQUILATERAL ARROWHEADbtUPWARDS EQUILATERAL ARROWHEADbtRIGHTWARDS EQUILATERAL ARROWHEADbtDOWNWAR",
     "DS EQUILATERAL ARROWHEADbDOWNWARDS TRIANGLE-HEADED ARROW WITH LONG TIP LEFTWARDSbquRIGHTWARDSbUP",
     "WARDS TRIANGLE-HEADED ARROW WITH LONG TIP LEFTWARDSbqsRIGHTWARDSbLEFTWARDS TRIANGLE-HEADED ARROW",
     " WITH LONG TIP UPWARDSbRIGHTWARDS TRIANGLE-HEADED ARROW WITH LONG TIP UPWARDSbLEFTWARDS TRIANGLE",
     "-HEADED ARROW WITH LONG TIP DOWNWARDSbRIGHTWARDS TRIANGLE-HEADED ARROW WITH LONG TIP DOWNWARDSbB",
     "LACK CURVED DOWNWARDS AND LEFTWARDS ARROWbpoRIGHTWARDS ARROWbonUPWARDS AND LEFTWARDS ARROWbozRIG",
     "HTWARDS ARROWbonLEFTWARDS AND UPWARDS ARROWbonRIGHTWARDS AND UPWARDS ARROWbonLEFTWARDS AND DOWNW",
     "ARDS ARROWbonRIGHTWARDS AND DOWNWARDS ARROWbRIBBON ARROW DOWN LEFTbosRIGHTbonUP LEFTboqRIGHTbonL",
     "EFT UPbonRIGHT UPbonLEFT DOWNbonRIGHT DOWNbUPWARDS WHITE ARROW FROM BAR WITH HORIZONTAL BARbp AR",
     "ROWHEAD IN A RECTANGLE BOXbOVERLAPPING WHITE SQUARESbosAND BLACK SQUARESbzBLACK SQUARESbBALLOT B",
     "OX WITH LIGHT XbCIRCLED XbvBOLD XbBLACK SQUARE CENTREDbtDIAMOND CENTREDbTURNED BLACK PENTAGONbHO",
     "RIZONTAL BLACK OCTAGONbBLACK OCTAGONbtMEDIUM UP-POINTING TRIANGLE CENTREDbonDOWN-POINTING TRIANG",
     "LE CENTREDbonLEFT-POINTING TRIANGLE CENTREDbonRIGHT-POINTING TRIANGLE CENTREDbNEPTUNE FORM TWObT",
     "OP HALF BLACK CIRCLEbBOTTOM HALF BLACK CIRCLEbLIGHT FOUR POINTED BLACK CUSPbROTATED LIGHT FOUR P",
     "OINTED BLACK CUSPbWHITE FOUR POINTED CUSPbROTATED WHITE FOUR POINTED CUSPbSQUARE POSITION INDICA",
     "TORbUNCERTAINTY SIGNbGROUP MARKbPLUTO FORM TWObzHREEbyFOURbzIVEbTRANSPLUTObPROSERPINAbASTRAEAbHY",
     "GIEAbPHOLUSbNESSUSbWHITE MOON SELENAbBLACK DIAMOND ON CROSSbTRUE LIGHT MOON ARTAbCUPIDObHADESbZE",
     "USbKRONOSbAPOLLONboDMETOSbVULCANUSbPOSEIDONbLEFT HALF BLACK STARbRIGHT HALF BLACK STARbSTAR WITH",
     " LEFT HALF BLACKbxRIGHT HALF BLACKbLEFTWARDS TWO-HEADED ARROW WITH TRIANGLE ARROWHEADSbUPWARDS T",
     "WO-HEADED ARROW WITH TRIANGLE ARROWHEADSbRIGHTWARDS TWO-HEADED ARROW WITH TRIANGLE ARROWHEADSbDO",
     "WNWARDS TWO-HEADED ARROW WITH TRIANGLE ARROWHEADSbERIS FORM ONEbxTWObSEDNAbRUSSIAN ASTROLOGICAL ",
     "SYMBOL VIGINTILEbppNOVILEbppQUINTILEbppBINOVILEbppSENTAGONbppTREDECILEbEQUALS SIGN WITH INFINITY",
     " BELOWbUNITED SYMBOLbSEPARATED SYMBOLbDOUBLED SYMBOLbPASSED SYMBOLbREVERSED RIGHT ANGLEbHELLSCHR",
     "EIBER PAUSE SYMBOLbGLAGOLITIC CAPITAL LETTER AZUbpnBUKYbpnVEDEbpnGLAGOLIbpnDOBRObpnYESTUbpnZHIVE",
     "TEbpnDZELObpnZEMLJAbpnIZHEbpoNITIAL IZHEbpobpnDJERVIbpnKAKObpnLJUDIJEbpnMYSLITEbpnNASHIbpnONUbpn",
     "POKOJIbpnRITSIbpnSLOVObpnTVRIDObpnUKUbpnFRITUbpnHERUbpnOTUbpnPEbpnSHTAbpnTSIbpnCHRIVIbpnSHAbpnYE",
     "RUbpqIbpoATIbpnSPIDERY HAbpnYUbpnSMALL YUSbpw WITH TAILbpnYObpnIOTATED SMALL YUSbpnBIG YUSbpnIOT",
     "ATED BIG YUSbpnFITAbpnIZHITSAbpnSHTAPICbpnTROKUTASTI AbpnLATINATE MYSLITEbpnCAUDATE CHRIVIbySMAL",
     "L LETTER AZUboyBUKYboyVEDEboyGLAGOLIboyDOBROboyYESTUboyZHIVETEboyDZELOboyZEMLJAboyIZHEbozNITIAL ",
     "IZHEbozboyDJERVIboyKAKOboyLJUDIJEboyMYSLITEboyNASHIboyONUboyPOKOJIboyRITSIboySLOVOboyTVRIDOboyUK",
     "UboyFRITUboyHERUboyOTUboyPEboySHTAboyTSIboyCHRIVIboySHAboyYERUbpoIbozATIboySPIDERY HAboyYUboySMA",
     "LL YUSbpu WITH TAILboyYOboyIOTATED SMALL YUSboyBIG YUSboyIOTATED BIG YUSboyFITAboyIZHITSAboySHTA",
     "PICboyTROKUTASTI AboyLATINATE MYSLITEboyCAUDATE CHRIVIbLATIN CAPITAL LETTER L WITH DOUBLE BARbtS",
     "MALL LETTER L WITH DOUBLE BARbtCAPITAL LETTER L WITH MIDDLE TILDEbovP WITH STROKEbovR WITH TAILb",
     "tSMALL LETTER A WITH STROKEbotT WITH DIAGONAL STROKEbtCAPITAL LETTER H WITH DESCENDERbtSMALL LET",
     "TER H WITH DESCENDERbtCAPITAL LETTER K WITH DESCENDERbtSMALL LETTER K WITH DESCENDERbtCAPITAL LE",
     "TTER Z WITH DESCENDERbtSMALL LETTER Z WITH DESCENDERbtCAPITAL LETTER ALPHAbovM WITH HOOKbovTURNE",
     "D AbpqLPHAbtSMALL LETTER V WITH RIGHT HOOKbtCAPITAL LETTER W WITH HOOKbtSMALL LETTER W WITH HOOK",
     "botV WITH CURLbtCAPITAL LETTER HALF HbtSMALL LETTER HALF HbotTAILLESS PHIbotE WITH NOTCHbotTURNE",
     "D R WITH TAILbotO WITH LOW RING INSIDEbtLETTER SMALL CAPITAL TURNED EbtSUBSCRIPT SMALL LETTER Jb",
     "MODIFIER LETTER CAPITAL VbLATIN CAPITAL LETTER S WITH SWASH TAILbovZ WITH SWASH TAILbCOPTIC CAPI",
     "TAL LETTER ALFAbuSMALL LETTER ALFAbuCAPITAL LETTER VIDAbuSMALL LETTER VIDAbuCAPITAL LETTER GAMMA",
     "buSMALL LETTER GAMMAbuCAPITAL LETTER DALDAbuSMALL LETTER DALDAbuCAPITAL LETTER EIEbuSMALL LETTER",
     " EIEbuCAPITAL LETTER SOUbuSMALL LETTER SOUbuCAPITAL LETTER ZATAbuSMALL LETTER ZATAbuCAPITAL LETT",
     "ER HATEbuSMALL LETTER HATEbuCAPITAL LETTER THETHEbuSMALL LETTER THETHEbuCAPITAL LETTER IAUDAbuSM",
     "ALL LETTER IAUDAbuCAPITAL LETTER KAPAbuSMALL LETTER KAPAbuCAPITAL LETTER LAULAbuSMALL LETTER LAU",
     "LAbuCAPITAL LETTER MIbuSMALL LETTER MIbuCAPITAL LETTER NIbuSMALL LETTER NIbuCAPITAL LETTER KSIbu",
     "SMALL LETTER KSIbuCAPITAL LETTER ObuSMALL LETTER ObuCAPITAL LETTER PIbuSMALL LETTER PIbuCAPITAL ",
     "LETTER RObuSMALL LETTER RObuCAPITAL LETTER SIMAbuSMALL LETTER SIMAbuCAPITAL LETTER TAUbuSMALL LE",
     "TTER TAUbuCAPITAL LETTER UAbuSMALL LETTER UAbuCAPITAL LETTER FIbuSMALL LETTER FIbuCAPITAL LETTER",
     " KHIbuSMALL LETTER KHIbuCAPITAL LETTER PSIbuSMALL LETTER PSIbuCAPITAL LETTER OOUbuSMALL LETTER O",
     "OUbuCAPITAL LETTER DIALECT-P ALEFbuSMALL LETTER DIALECT-P ALEFbuCAPITAL LETTER OLD COPTIC AINbuS",
     "MALL LETTER OLD COPTIC AINbuCAPITAL LETTER CRYPTOGRAMMIC EIEbuSMALL LETTER CRYPTOGRAMMIC EIEbuCA",
     "PITAL LETTER DIALECT-P KAPAbuSMALL LETTER DIALECT-P KAPAbuCAPITAL LETTER DIALECT-P NIbuSMALL LET",
     "TER DIALECT-P NIbuCAPITAL LETTER CRYPTOGRAMMIC NIbuSMALL LETTER CRYPTOGRAMMIC NIbuCAPITAL LETTER",
     " OLD COPTIC OOUbuSMALL LETTER OLD COPTIC OOUbuCAPITAL LETTER SAMPIbuSMALL LETTER SAMPIbuCAPITAL ",
     "LETTER CROSSED SHEIbuSMALL LETTER CROSSED SHEIbuCAPITAL LETTER OLD COPTIC SHEIbuSMALL LETTER OLD",
     " COPTIC SHEIbuCAPITAL LETTER OLD COPTIC ESHbuSMALL LETTER OLD COPTIC ESHbuCAPITAL LETTER AKHMIMI",
     "C KHEIbuSMALL LETTER AKHMIMIC KHEIbuCAPITAL LETTER DIALECT-P HORIbuSMALL LETTER DIALECT-P HORIbu",
     "CAPITAL LETTER OLD COPTIC HORIbuSMALL LETTER OLD COPTIC HORIbuCAPITAL LETTER OLD COPTIC HAbuSMAL",
     "L LETTER OLD COPTIC HAbuCAPITAL LETTER L-SHAPED HAbuSMALL LETTER L-SHAPED HAbuCAPITAL LETTER OLD",
     " COPTIC HEIbuSMALL LETTER OLD COPTIC HEIbuCAPITAL LETTER OLD COPTIC HATbuSMALL LETTER OLD COPTIC",
     " HATbuCAPITAL LETTER OLD COPTIC GANGIAbuSMALL LETTER OLD COPTIC GANGIAbuCAPITAL LETTER OLD COPTI",
     "C DJAbuSMALL LETTER OLD COPTIC DJAbuCAPITAL LETTER OLD COPTIC SHIMAbuSMALL LETTER OLD COPTIC SHI",
     "MAbuCAPITAL LETTER OLD NUBIAN SHIMAbuSMALL LETTER OLD NUBIAN SHIMAbuCAPITAL LETTER OLD NUBIAN NG",
     "IbuSMALL LETTER OLD NUBIAN NGIbuCAPITAL LETTER OLD NUBIAN NYIbuSMALL LETTER OLD NUBIAN NYIbuCAPI",
     "TAL LETTER OLD NUBIAN WAUbuSMALL LETTER OLD NUBIAN WAUbvYMBOL KAIbooMI RObooPI RObooSTAUROSbooTA",
     "U RObooKHI RObooSHIMA SIMAbuCAPITAL LETTER CRYPTOGRAMMIC SHEIbuSMALL LETTER CRYPTOGRAMMIC SHEIbu",
     "CAPITAL LETTER CRYPTOGRAMMIC GANGIAbuSMALL LETTER CRYPTOGRAMMIC GANGIAbuCOMBINING NI ABOVEborSPI",
     "RITUS ASPERbpnLENISbvAPITAL LETTER BOHAIRIC KHEIbuSMALL LETTER BOHAIRIC KHEIguOLD NUBIAN FULL ST",
     "OPbosDIRECT QUESTION MARKbosINDIRECT QUESTION MARKbosVERSE DIVIDERbuFRACTION ONE HALFbvULL STOPb",
     "uMORPHOLOGICAL DIVIDERbGEORGIAN SMALL LETTER ANbowBANbowGANbowDONbowENbowVINbowZENbowTANbowINbow",
     "KANbowLASbowMANbowNARbowONbowPARbowZHARbowRAEbowSANbowTARbowUNbowPHARbowKHARbowGHANbowQARbowSHIN",
     "bowCHINboxANbowJILbowCILboxHARbowXANbowJHANbowHAEboxEboxIEbowWEbowHARboxOEcowYNgowAENdTIFINAGH L",
     "ETTER YAbosBbotHbosGbotHHboqBERBER ACADEMY YAJboqYAJbosDbotHbotDbouHborEYborAFbosKboqTUAREG YAKb",
     "oqYAKHHbosHboqBERBER ACADEMY YAHboqTUAREG YAHboqYAHHbosAbosKHboqTUAREG YAKHboqYAQboqTUAREG YAQbo",
     "qYIborAZHboqAHAGGAR YAZHboqTUAREG YAZHboqYALbosMbosNboqTUAREG YAGNbozNGboqYAPborUborARbotRbosGHb",
     "oqTUAREG YAGHboqAYER YAGHboqYASbotSbotHbosTbotHbosCHbosTTbosVbosWbosYbosZboqTAWELLEMET YAZboqYAZ",
     "ZborEborOiwMODIFIER LETTER LABIALIZATION MARKbwSEPARATOR MARKbcwCONSONANT JOINERbETHIOPIC SYLLAB",
     "LE LOAbosMOAbosROAbosSOAbotHOAbosBOAbosTOAbosCOAbosNOAbotYOAbosGLOTTAL OAbosZOAbosDOAbotDOAbosJO",
     "AbosTHOAbosCHOAbosPHOAbotOAbosGGWAbovIbovEEbowkosSSAbouUbouIbouAAbouEEbovbouOcosCCAbouUbouIbouAA",
     "bouEEbovbouOcosZZAbouUbouIbouAAbouEEbovbouOcosCCHAbovUbovIbovAAbovEEbowbovOcosQYAbouUbouIbouAAbo",
     "uEEbovbouOcosKYAbouUbouIbouAAbouEEbovbouOcosXYAbouUbouIbouAAbouEEbovbouOcosGYAbouUbouIbouAAbouEE",
     "bovbouOcCOMBINING CYRILLIC LETTER BEbpnVEbpnGHEbpnDEbpnZHEbpoEbpnKAbpnELbpoMbpoNbpnObpnPEbpnERbp",
     "oSbpnTEbpnHAbpnTSEbpnCHEbpnSHAbppCHAbpnFITAbpnES-TEbpnAbpnIEbpnDJERVbpnMONOGRAPH UKbpnYATbpoUbpn",
     "IOTIFIED AbpnLITTLE YUSbpnBIG YUSbpnIOTIFIED BIG YUSbRIGHT ANGLE SUBSTITUTION MARKERbzDOTTED SUB",
     "STITUTION MARKERbLEFT SUBSTITUTION BRACKETbRIGHT SUBSTITUTION BRACKETbLEFT DOTTED SUBSTITUTION B",
     "RACKETbRIGHT DOTTED SUBSTITUTION BRACKETboAISED INTERPOLATION MARKERbuDOTTED INTERPOLATION MARKE",
     "RbDOTTED TRANSPOSITION MARKERbLEFT TRANSPOSITION BRACKETbRIGHT TRANSPOSITION BRACKETboAISED SQUA",
     "REbLEFT RAISED OMISSION BRACKETbRIGHT RAISED OMISSION BRACKETbEDITORIAL CORONISbPARAGRAPHOSbFORK",
     "ED PARAGRAPHOSbREVERSED FORKED PARAGRAPHOSbHYPODIASTOLEbDOTTED OBELOSbpWNWARDS ANCORAbUPWARDS AN",
     "CORAbDOTTED RIGHT-POINTING ANGLEbpUBLE OBLIQUE HYPHENbINVERTED INTERROBANGbPALM BRANCHbHYPHEN WI",
     "TH DIAERESISbTILDE WITH RING ABOVEbLEFT LOW PARAPHRASE BRACKETbRIGHT LOW PARAPHRASE BRACKETbTILD",
     "E WITH DOT ABOVEbopBELOWbLEFT VERTICAL BAR WITH QUILLbRIGHT VERTICAL BAR WITH QUILLbTOP LEFT HAL",
     "F BRACKETbrRIGHT HALF BRACKETbBOTTOM LEFT HALF BRACKETbuRIGHT HALF BRACKETbLEFT SIDEWAYS U BRACK",
     "ETbRIGHT SIDEWAYS U BRACKETbLEFT DOUBLE PARENTHESISbRIGHT DOUBLE PARENTHESISbTWO DOTS OVER ONE D",
     "OT PUNCTUATIONbONE DOT OVER TWO DOTS PUNCTUATIONbSQUARED FOUR DOT PUNCTUATIONbFIVE DOT MARKbREVE",
     "RSED QUESTION MARKbVERTICAL TILDEbRING POINTbWORD SEPARATOR MIDDLE DOTbTURNED COMMAbRAISED DOTbu",
     "COMMAbTURNED SEMICOLONbDAGGER WITH LEFT GUARDbzRIGHT GUARDbTURNED DAGGERboOP HALF SECTION SIGNbo",
     "WO-EM DASHboHREE-EM DASHbSTENOGRAPHIC FULL STOPbVERTICAL SIX DOTSbWIGGLY VERTICAL LINEbCAPITULUM",
     "bDOUBLE HYPHENbREVERSED COMMAbDOUBLE LOW-REVERSED-9 QUOTATION MARKboASH WITH LEFT UPTURNboOUBLE ",
     "SUSPENSION MARKbINVERTED LOW KAVYKAbot WITH KAVYKA ABOVEbLOW KAVYKAbx WITH DOTbDOUBLE STACKED CO",
     "MMAbpTTED SOLIDUSbTRIPLE DAGGERbMEDIEVAL COMMAbPARAGRAPHUS MARKboUNCTUS ELEVATUS MARKbCORNISH VE",
     "RSE DIVIDERboROSS PATTY WITH RIGHT CROSSBARborLEFT CROSSBARbTIRONIAN SIGN CAPITAL ETbMEDIEVAL EX",
     "CLAMATION MARKbwQUESTION MARKbLEFT SQUARE BRACKET WITH STROKEbRIGHT SQUARE BRACKET WITH STROKEbL",
     "EFT SQUARE BRACKET WITH DOUBLE STROKEbRIGHT SQUARE BRACKET WITH DOUBLE STROKEbTOP HALF LEFT PARE",
     "NTHESISbwRIGHT PARENTHESISbBOTTOM HALF LEFT PARENTHESISbzRIGHT PARENTHESISbOBLIQUE HYPHENcjCJK R",
     "ADICAL REPEATbzCLIFFbzSECOND ONEbotTWObouHREEbzPERSONbzBOXbzTABLEbzKNIFE ONEbosTWObzDIVINATIONbz",
     "SEALbonMALL ONEbosTWObzLAME ONEborTWObosHREEborFOURbzSNAKEbzTHREADbzSNOUT ONEbosTWObzHEART ONEbo",
     "sTWObonANDbzRAPczCHOKEbzSUNbzMOONbzDEATHbzMOTHERbzCIVILIANbzWATER ONEbosTWObzFIREbzPAW ONEboqTWO",
     "bzSIMPLIFIED HALF TREE TRUNKbzCOWbzDOGbzJADEbzBOLT OF CLOTHbzEYEbzSPIRIT ONEbotTWObzBAMBOObzSILK",
     "bzC-SIMPLIFIED SILKbzNET ONEboqTWOborHREEboqFOURbzMESHbzSHEEPbzRAMbzEWEbzOLDbzBRUSH ONEbosTWObzM",
     "EATbonORTARbzGRASS ONEbosTWObotHREEbzTIGERbzCLOTHESbzWEST ONEborTWObzC-SIMPLIFIED SEEbzSIMPLIFIE",
     "D HORNbzHORNbzC-SIMPLIFIED SPEECHbpnHELLbzFOOTbzC-SIMPLIFIED CARTbzSIMPLIFIED WALKbzWALK ONEborT",
     "WObzCITYbon-SIMPLIFIED GOLDbzLONG ONEborTWObzC-SIMPLIFIED LONGbozGATEbzMOUND ONEbosTWObzRAINbzBL",
     "UEbzC-SIMPLIFIED TANNED LEATHERbozLEAFbozWINDbozFLYbzEAT ONEboqTWOborHREEbzC-SIMPLIFIED EATbzHEA",
     "DbzC-SIMPLIFIED HORSEbzBONEbzGHOSTbzC-SIMPLIFIED FISHbozBIRDbozSALTbzSIMPLIFIED WHEATboxYELLOWbz",
     "C-SIMPLIFIED FROGbzJ-SIMPLIFIED EVENbzC-SIMPLIFIED EVENbzJ-SIMPLIFIED TOOTHbzC-SIMPLIFIED TOOTHb",
     "zJ-SIMPLIFIED DRAGONbzC-SIMPLIFIED DRAGONbzTURTLEbzJ-SIMPLIFIED TURTLEbzC-SIMPLIFIED TURTLEbaKAN",
     "GXI RADICAL ONEbopLINEbopDOTbopSLASHboqECONDbopHOOKbopTWObopLIDbopMANbopLEGSbopENTERboqIGHTbopDO",
     "WN BOXbopCOVERbopICEbopTABLEbopOPEN BOXbopKNIFEbopPOWERbopWRAPbopSPOONbopRIGHT OPEN BOXbopHIDING",
     " ENCLOSUREbopTENbopDIVINATIONbopSEALbopCLIFFbopPRIVATEbopAGAINbopMOUTHbopENCLOSUREboqARTHbopSCHO",
     "LARbopGObor SLOWLYbopEVENINGbopBIGbopWOMANbopCHILDbopROOFbopINCHbopSMALLbopLAMEbopCORPSEbopSPROU",
     "TbopMOUNTAINbopRIVERbopWORKbopONESELFbopTURBANbopDRYbopSHORT THREADbopDOTTED CLIFFbopLONG STRIDE",
     "bopTWO HANDSbopSHOOTbopBOWbopSNOUTbopBRISTLEbopSTEPbopHEARTboqALBERDbopDOORbopHANDbopBRANCHbopRA",
     "PbopSCRIPTbopDIPPERbopAXEbopSQUAREbopNOTbopSUNboqAYbopMOONbopTREEbopLACKbopSTOPbopDEATHbopWEAPON",
     "bopDO NOTbopCOMPAREbopFURbopCLANbopSTEAMbopWATERbopFIREbopCLAWbopFATHERbopDOUBLE XbopHALF TREE T",
     "RUNKbopSLICEbopFANGbopCOWbopDOGbopPROFOUNDbopJADEbopMELONbopTILEbopSWEETbopLIFEbopUSEbopFIELDbop",
     "BOLT OF CLOTHbopSICKNESSbopDOTTED TENTbopWHITEbopSKINbopDISHbopEYEbopSPEARbopARROWbopSTONEboqPIR",
     "ITbopTRACKbopGRAINbopCAVEbopSTANDbopBAMBOObopRICEbopSILKbopJARbopNETbopSHEEPbopFEATHERbopOLDbopA",
     "NDbopPLOWbopEARbopBRUSHbopMEATboqINISTERbopSELFbopARRIVEbopMORTARbopTONGUEbopOPPOSEbopBOATbopSTO",
     "PPINGbopCOLORbopGRASSbopTIGERbopINSECTbopBLOODbopWALK ENCLOSUREbopCLOTHESbopWESTbopSEEbopHORNbop",
     "SPEECHbopVALLEYbopBEANbopPIGbopBADGERbopSHELLbopREDboqUNbopFOOTbopBODYbopCARTbopBITTERbopMORNING",
     "bopWALKbopCITYbopWINEbopDISTINGUISHbopVILLAGEbopGOLDbopLONGbopGATEbopMOUNDbopSLAVEboqHORT TAILED",
     " BIRDbopRAINbopBLUEbopWRONGbopFACEbopLEATHERbopTANNED LEATHERbopLEEKbopSOUNDbopLEAFbopWINDbopFLY",
     "bopEATbopHEADbopFRAGRANTbopHORSEbopBONEbopTALLbopHAIRbopFIGHTbopSACRIFICIAL WINEbopCAULDRONbopGH",
     "OSTbopFISHbopBIRDbopSALTbopDEERbopWHEATbopHEMPbopYELLOWbopMILLETbopBLACKbopEMBROIDERYbopFROGbopT",
     "RIPODbopDRUMbopRATbopNOSEbopEVENbopTOOTHbopDRAGONbopTURTLEbopFLUTEcbIDEOGRAPHIC DESCRIPTION CHAR",
     "ACTER LEFT TO RIGHTbpvABOVE TO BELOWbpvLEFT TO MIDDLE AND RIGHTbpvABOVE TO MIDDLE AND BELOWbpvFU",
     "LL SURROUNDbpvSURROUND FROM ABOVEbqwBELOWbqwLEFTbqwUPPER LEFTbrpRIGHTbqwLOWER LEFTbpvOVERLAIDfzS",
     "PACEbzCOMMAbzFULL STOPbDITTO MARKbJAPANESE INDUSTRIAL STANDARD SYMBOLbIDEOGRAPHIC ITERATION MARK",
     "bzCLOSING MARKbzNUMBER ZERObLEFT ANGLE BRACKETbRIGHT ANGLE BRACKETbLEFT DOUBLE ANGLE BRACKETbRIG",
     "HT DOUBLE ANGLE BRACKETbLEFT CORNER BRACKETbRIGHT CORNER BRACKETbLEFT WHITE CORNER BRACKETbRIGHT",
     " WHITE CORNER BRACKETbLEFT BLACK LENTICULAR BRACKETbRIGHT BLACK LENTICULAR BRACKETbPOSTAL MARKbG",
     "ETA MARKbLEFT TORTOISE SHELL BRACKETbRIGHT TORTOISE SHELL BRACKETbLEFT WHITE LENTICULAR BRACKETb",
     "RIGHT WHITE LENTICULAR BRACKETbLEFT WHITE TORTOISE SHELL BRACKETbRIGHT WHITE TORTOISE SHELL BRAC",
     "KETbLEFT WHITE SQUARE BRACKETbRIGHT WHITE SQUARE BRACKETbWAVE DASHbREVERSED DOUBLE PRIME QUOTATI",
     "ON MARKbDOUBLE PRIME QUOTATION MARKbLOW DOUBLE PRIME QUOTATION MARKbPOSTAL MARK FACEbHANGZHOU NU",
     "MERAL ONEborTWObosHREEborFOURbosIVEborSIXbosEVENborEIGHTborNINEbIDEOGRAPHIC LEVEL TONE MARKbzRIS",
     "ING TONE MARKbzDEPARTING TONE MARKbzENTERING TONE MARKbHANGUL SINGLE DOT TONE MARKbuDOUBLE DOT T",
     "ONE MARKbWAVY DASHbVERTICAL KANA REPEAT MARKbovWITH VOICED SOUND MARKbovMARK UPPER HALFbovWITH V",
     "OICED SOUND MARK UPPER HALFbovMARK LOWER HALFbCIRCLED POSTAL MARKbIDEOGRAPHIC TELEGRAPH LINE FEE",
     "D SEPARATOR SYMBOLbHANGZHOU NUMERAL TENbosWENTYbosHIRTYbVERTICAL IDEOGRAPHIC ITERATION MARKbMASU",
     " MARKbPART ALTERNATION MARKbIDEOGRAPHIC VARIATION INDICATORbzHALF FILL SPACEcHIRAGANA LETTER SMA",
     "LL AboqAboqSMALL IboqIboqSMALL UboqUboqSMALL EboqEboqSMALL OboqOboqKAboqGAboqKIboqGIboqKUboqGUbo",
     "qKEboqGEboqKOboqGOboqSAboqZAboqSIboqZIboqSUboqZUboqSEboqZEboqSOboqZOboqTAboqDAboqTIboqDIboqSMALL",
     " TUboqTUboqDUboqTEboqDEboqTOboqDOboqNAborIborUborEborOboqHAboqBAboqPAboqHIboqBIboqPIboqHUboqBUbo",
     "qPUboqHEboqBEboqPEboqHOboqBOboqPOboqMAborIborUborEborOboqSMALL YAboqYAboqSMALL YUboqYUboqSMALL Y",
     "OboqYOboqRAborIborUborEborOboqSMALL WAboqWAborIborEborOboqNboqVUboqSMALL KAboxEdCOMBINING KATAKA",
     "NA-HIRAGANA VOICED SOUND MARKbppSEMI-VOICED SOUND MARKbKATAKANA-HIRAGANA VOICED SOUND MARKbosSEM",
     "I-VOICED SOUND MARKbHIRAGANA ITERATION MARKbwVOICED ITERATION MARKbwDIGRAPH YORIbKATAKANA-HIRAGA",
     "NA DOUBLE HYPHENbv LETTER SMALL AboqAboqSMALL IboqIboqSMALL UboqUboqSMALL EboqEboqSMALL OboqOboq",
     "KAboqGAboqKIboqGIboqKUboqGUboqKEboqGEboqKOboqGOboqSAboqZAboqSIboqZIboqSUboqZUboqSEboqZEboqSOboqZ",
     "OboqTAboqDAboqTIboqDIboqSMALL TUboqTUboqDUboqTEboqDEboqTOboqDOboqNAborIborUborEborOboqHAboqBAboq",
     "PAboqHIboqBIboqPIboqHUboqBUboqPUboqHEboqBEboqPEboqHOboqBOboqPOboqMAborIborUborEborOboqSMALL YAbo",
     "qYAboqSMALL YUboqYUboqSMALL YOboqYOboqRAborIborUborEborOboqSMALL WAboqWAborIborEborOboqNboqVUboq",
     "SMALL KAboxEboqVAborIborEborObwMIDDLE DOTbv-HIRAGANA PROLONGED SOUND MARKbv ITERATION MARKbwVOIC",
     "ED ITERATION MARKbwDIGRAPH KOTOgBOPOMOFO LETTER BboqPboqMboqFboqDboqTboqNboqLboqGboqKboqHboqJboq",
     "QboqXboqZHboqCHboqSHboqRboqZboqCboqSboqAboqOboqEborHboqAIboqEIboqAUboqOUboqANboqENboqANGboqENGbo",
     "rRboqIboqUboqIUboqVboqNGboqGNboqIHboqO WITH DOT ABOVEboqNNcHANGUL LETTER KIYEOKbooSSANGKIYEOKboo",
     "KIYEOK-SIOSbooNIEUNbot-CIEUCbouHIEUHbooTIKEUTbooSSANGTIKEUTbooRIEULbot-KIYEOKbouMIEUMbouPIEUPbou",
     "SIOSbouTHIEUTHbouPHIEUPHbouHIEUHbooMIEUMbooPIEUPbooSSANGPIEUPbooPIEUP-SIOSbooSIOSbopSANGSIOSbooI",
     "EUNGbooCIEUCbooSSANGCIEUCbooCHIEUCHbooKHIEUKHbooTHIEUTHbooPHIEUPHbooHIEUHbooAbopEbooYAboqEbooEOb",
     "opbooYEOboqbooObooWAboqEbooOEbooYObooUbooWEOboqbopIbooYUbooEUbooYIbooIbuFILLERbuLETTER SSANGNIEU",
     "NbooNIEUN-TIKEUTbouSIOSbouPANSIOSbooRIEUL-KIYEOK-SIOSbouTIKEUTbouPIEUP-SIOSbovANSIOSbouYEORINHIE",
     "UHbooMIEUM-PIEUPbouSIOSbouPANSIOSbooKAPYEOUNMIEUMbooPIEUP-KIYEOKbouTIKEUTbouSIOS-KIYEOKbozTIKEUT",
     "bouCIEUCbouTHIEUTHbooKAPYEOUNPIEUPbowSSANGPIEUPbooSIOS-KIYEOKbotNIEUNbotTIKEUTbotPIEUPbotCIEUCbo",
     "oPANSIOSbooSSANGIEUNGbooYESIEUNGbow-SIOSboxPANSIOSbooKAPYEOUNPHIEUPHbooSSANGHIEUHbooYEORINHIEUHb",
     "opO-YAbotEborIbopU-YEObotborIbooARAEAbotEcIDEOGRAPHIC ANNOTATION LINKING MARKboxREVERSE MARKboxO",
     "NE MARKboxTWO MARKboyHREE MARKboxFOUR MARKboxTOP MARKboxMIDDLE MARKboxBOTTOM MARKboxFIRST MARKbo",
     "xSECOND MARKboxTHIRD MARKboxFOURTH MARKboxHEAVEN MARKboxEARTH MARKboxMAN MARKbBOPOMOFO LETTER BU",
     "boqZIboqJIboqGUboqEEborNNboqOOborNNboqIRboqANNboqINNboqUNNboqIMboqNGGboqAINNborUNNborMboqOMborNG",
     "boqINNNbwFINAL LETTER PbowTbowKbowHbwLETTER GHboqLHboqZYbwFINAL LETTER GbwLETTER GWboqKWboqOEboq",
     "AHbCJK STROKE TbyWGbyXGbyBXGbySWbyHZZbonGbzPbzZWGbySZWGbyHZTbonZPbzPWGbzZWbonZZbyNbyHbySbyPbySPb",
     "yDbyHZbzGbySZbzWZbzTbzGbyPDbzZbyTNbySZZbzWGbyHXWGbzZZZGbyPGbyQbaKATAKANA LETTER SMALL KUbowSIbox",
     "UbowTObowNUbowHAboxIboxUboxEboxObowMUbowRAboxIboxUboxEboxObPARENTHESIZED HANGUL KIYEOKbovNIEUNbo",
     "vTIKEUTbovRIEULbovMIEUMbovPIEUPbovSIOSbovIEUNGbovCIEUCbowHIEUCHbovKHIEUKHbovTHIEUTHbovPHIEUPHbov",
     "HIEUHbovKIYEOK AbovNIEUN AbovTIKEUT AbovRIEUL AbovMIEUM AbovPIEUP AbovSIOS AbovIEUNG AbovCIEUC A",
     "bowHIEUCH AbovKHIEUKH AbovTHIEUTH AbovPHIEUPH AbovHIEUH AbovCIEUC UbooKOREAN CHARACTER OJEONbpt ",
     "HUcooIDEOGRAPH ONEboyTWObozHREEboyFOURbozIVEboySIXbozEVENboyEIGHTboyNINEboyTENboyMOONboyFIREboyW",
     "ATERbozOODboyMETALboyEARTHboySUNbozTOCKboyHAVEboySOCIETYboyNAMEboySPECIALboyFINANCIALboyCONGRATU",
     "LATIONboyLABORboyREPRESENTboyCALLboySTUDYbozUPERVISEboyENTERPRISEboyRESOURCEboyALLIANCEboyFESTIV",
     "ALboyRESTboySELFboyREACHbCIRCLED IDEOGRAPH QUESTIONbosKINDERGARTENbosSCHOOLbosKOTObvNUMBER TEN O",
     "N BLACK SQUAREboqWENTY ON BLACK SQUAREboqHIRTY ON BLACK SQUAREbopFORTY ON BLACK SQUAREboqIFTY ON",
     " BLACK SQUAREbopSIXTY ON BLACK SQUAREboqEVENTY ON BLACK SQUAREbopEIGHTY ON BLACK SQUAREbPARTNERS",
     "HIP SIGNbCIRCLED NUMBER TWENTY ONEbowTWOboxHREEbowFOURboxIVEbowSIXboxEVENbowEIGHTbowNINEboqHIRTY",
     "bov ONEbowTWOboxHREEbowFOURboxIVEbvHANGUL KIYEOKbopNIEUNbopTIKEUTbopRIEULbopMIEUMbopPIEUPbopSIOS",
     "bopIEUNGbopCIEUCboqHIEUCHbopKHIEUKHbopTHIEUTHbopPHIEUPHbopHIEUHbopKIYEOK AbopNIEUN AbopTIKEUT Ab",
     "opRIEUL AbopMIEUM AbopPIEUP AbopSIOS AbopIEUNG AbopCIEUC AboqHIEUCH AbopKHIEUKH AbopTHIEUTH Abop",
     "PHIEUPH AbopHIEUH AbvKOREAN CHARACTER CHAMKObozJUEUIbvHANGUL IEUNG UbKOREAN STANDARD SYMBOLbCIRC",
     "LED IDEOGRAPH ONEbosTWObotHREEbosFOURbotIVEbosSIXbotEVENbosEIGHTbosNINEbosTENbosMOONbosFIREbosWA",
     "TERbotOODbosMETALbosEARTHbosSUNbotTOCKbosHAVEbosSOCIETYbosNAMEbosSPECIALbosFINANCIALbosCONGRATUL",
     "ATIONbosLABORbosSECRETbosMALEbosFEMALEbosSUITABLEbosEXCELLENTbosPRINTbosATTENTIONbosITEMbosRESTb",
     "osCOPYbouRRECTbosHIGHbosCENTREbosLOWbotEFTbosRIGHTbosMEDICINEbosRELIGIONbosSTUDYbotUPERVISEbosEN",
     "TERPRISEbosRESOURCEbosALLIANCEbosNIGHTbvNUMBER THIRTY SIXboxEVENbowEIGHTbowNINEbopFORTYbou ONEbo",
     "vTWObowHREEbovFOURbowIVEbovSIXbowEVENbovEIGHTbovNINEboqIFTYbIDEOGRAPHIC TELEGRAPH SYMBOL FOR JAN",
     "UARYbpuFEBRUARYbpuMARCHbpuAPRILbpuMAYbpuJUNEbpwLYbpuAUGUSTbpuSEPTEMBERbpuOCTOBERbpuNOVEMBERbpuDE",
     "CEMBERbSQUARE HGbuERGbvVbLIMITED LIABILITY SIGNbCIRCLED KATAKANA AborIborUborEborOborKAbosIbosUb",
     "osEbosOborSAbosIbosUbosEbosOborTAbosIbosUbosEbosOborNAbosIbosUbosEbosOborHAbosIbosUbosEbosOborMA",
     "bosIbosUbosEbosOborYAbosUbosOborRAbosIbosUbosEbosOborWAbosIbosEbosObSQUARE ERA NAME REIWAbuAPAAT",
     "ObvRUHUAbvNPEAbvARUbuININGUbwTIbuUONbuESUKUUDObvEKAAbuONSUbvOMUbuKAIRIbwRATTObxORIIbuGARONbwNMAb",
     "vIGAbwNIIbuKYURIIbuGIRUDAAbuKIRObyGURAMUbyMEETORUbyWATTObuGURAMUbonTONbuKURUZEIRObxOONEbvEESUbvO",
     "RUNAbwOPObuSAIKURUbwNTIIMUbvIRINGUbvENTIbyObuDAASUbvESIbvORUbuTONbuNANObvOTTObuHAITUbuPAASENTObx",
     "TUbuBAARERUbuPIASUTORUbwKURUbxObuBIRUbuHUARADDObwIITObuBUSSYERUbuHURANbvEKUTAARUbuPESObwNIHIbuHE",
     "RUTUbuPENSUbwEZIbuBEETAbuPOINTObuBORUTObuHONbuPONDObuHOORUbxNbuMAIKURObxRUbwHHAbwRUKUbwNSYONbvIK",
     "URONbwRIbyBAARUbvEGAbyTONbwETORUbuYAADObxRUbvUANbuRITTORUbwRAbvUPIIbwUBURUbvEMUbwNTOGENbuWATTObI",
     "DEOGRAPHIC TELEGRAPH SYMBOL FOR HOUR ZERObpzONEbpzTWObqnHREEbpzFOURbqnIVEbpzSIXbqnEVENbpzEIGHTbp",
     "zNINEbpzTENbpzELEVENbpzTWELVEbqnHIRTEENbpzFOURTEENbqnIFTEENbpzSIXTEENbqnEVENTEENbpzEIGHTEENbpzNI",
     "NETEENbpzTWENTYbqs-ONEbqtTWObquHREEbqtFOURbSQUARE HPAbuDAbuAUbuBARbuOVbuPCbuDMbw SQUAREDbxCUBEDb",
     "uIUbuERA NAME HEISEIboqSYOUWAboqTAISYOUboqMEIZIbuCORPORATIONbuPA AMPSbuNAbuMU AbvAbuKAbvBbuMBbuG",
     "BbuCALbuKCALbuPFbuNFbuMU FbxGbvGbuKGbuHZbuKHZbuMHZbuGHZbuTHZbuMU LbvLbuDLbuKLbuFMbuNMbuMU MbvMbu",
     "CMbuKMbuMM SQUAREDbuCM SQUAREDbuM SQUAREDbuKM SQUAREDbuMM CUBEDbuCM CUBEDbuM CUBEDbuKM CUBEDbuM ",
     "OVER Sbop SQUAREDbuPAbuKPAbuMPAbuGPAbuRADbx OVER Sbor SQUAREDbuPSbuNSbuMU SbvSbuPVbuNVbuMU VbvVb",
     "uKVbuMV MEGAbuPWbuNWbuMU WbvWbuKWbuMW MEGAbuK OHMbuM OHMbuAMbuBQbuCCbvDbv OVER KGbvObuDBbuGYbuHA",
     "bvPbuINbuKKbvM CAPITALbvTbuLMbvNbvOGbvXbuMB SMALLbvILbvOLbuPHbvMbvPMbvRbuSRbvVbuWBbuV OVER MbuA ",
     "OVER MbIDEOGRAPHIC TELEGRAPH SYMBOL FOR DAY ONEbpyTWObpzHREEbpyFOURbpzIVEbpySIXbpzEVENbpyEIGHTbp",
     "yNINEbpyTENbpyELEVENbpyTWELVEbpzHIRTEENbpyFOURTEENbpzIFTEENbpySIXTEENbpzEVENTEENbpyEIGHTEENbpyNI",
     "NETEENbpyTWENTYbqr-ONEbqsTWObqtHREEbqsFOURbqtIVEbqsSIXbqtEVENbqsEIGHTbqsNINEbpzHIRTYbqr-ONEbSQUA",
     "RE GALdaacHEXAGRAM FOR THE CREATIVE HEAVENborRECEPTIVE EARTHbonDIFFICULTY AT THE BEGINNINGbonYOU",
     "THFUL FOLLYbonWAITINGbonCONFLICTbonTHE ARMYbonHOLDING TOGETHERbonSMALL TAMINGbonTREADINGbonPEACE",
     "bonSTANDSTILLbonFELLOWSHIPbonGREAT POSSESSIONbonMODESTYbonENTHUSIASMbonFOLLOWINGbonWORK ON THE D",
     "ECAYEDbonAPPROACHbonCONTEMPLATIONbonBITING THROUGHbonGRACEbonSPLITTING APARTbonRETURNbonINNOCENC",
     "EbonGREAT TAMINGbonMOUTH CORNERSbonGREAT PREPONDERANCEbonTHE ABYSMAL WATERborCLINGING FIREbonINF",
     "LUENCEbonDURATIONbonRETREATbonGREAT POWERbonPROGRESSbonDARKENING OF THE LIGHTbonTHE FAMILYbonOPP",
     "OSITIONbooBSTRUCTIONbonDELIVERANCEbopCREASEbonINCREASEbonBREAKTHROUGHbonCOMING TO MEETbonGATHERI",
     "NG TOGETHERbonPUSHING UPWARDbonOPPRESSIONbonTHE WELLbonREVOLUTIONbonTHE CAULDRONborAROUSING THUN",
     "DERborKEEPING STILL MOUNTAINbonDEVELOPMENTbonTHE MARRYING MAIDENbonABUNDANCEbonTHE WANDERERborGE",
     "NTLE WINDborJOYOUS LAKEbonDISPERSIONbonLIMITATIONbonINNER TRUTHbonSMALL PREPONDERANCEbonAFTER CO",
     "MPLETIONbonBEFORE COMPLETIONjhclYI SYLLABLE ITbonXbonbonPbonETbooXboobooPbzATbonXbonbonPbzUOXboo",
     "booPbzOTbonXbonbonPbzEXbonbzWUbzBITbooXboobooPbooETbopXbopbopPbonATbooXboobooPbonUOXbopbopPbonOT",
     "booXboobooPbonEXboobooPbonUTbooXboobooPbooRXbopbonYTbooXboobooPbooRXbopbzPITbooXboobooPbooEXbopb",
     "opPbonATbooXboobooPbonUOXbopbopPbonOTbooXboobooPbonUTbooXboobooPbooRXbopbonYTbooXboobooPbooRXbop",
     "bzBBITbopXbopbopPbopETboqXboqboqPbooATbopXbopbopPbooUOXboqboqPbooOTbopXbopbopPbooEXbopbopPbooUTb",
     "opXbopbopPbopRXboqbooYTbopXbopbopPbzNBITbopXbopbopPbopEXboqboqPbooATbopXbopbopPbooOTbopXbopbopPb",
     "ooUTbopXbopbopPbopRXboqbooYTbopXbopbopPbopRXboqbzHMITbopXbopbopPbopEXboqboqPbooATbopXbopbopPbooU",
     "OXboqboqPbooOTbopXbopbopPbooUTbopXbopbopPbopRXboqbooYXbopbopPbopRXboqbzMITbooXboobooPbooEXbopbop",
     "PbonATbooXboobooPbonUOTbopXbopbopPbonOTbooXboobooPbonEXboobonUTbooXboobooPbooRXbopbonYTbooXboobo",
     "oPbzFITbooXboobooPbonATbooXboobooPbonOXboobooPbonUTbooXboobooPbooRXbopbonYTbooXboobooPbzVITbooXb",
     "oobooPbooETbopXbopbopPbonATbooXboobooPbonOTbooXboobooPbonEXbooPbonUTbooXboobooPbooRXbopbonYTbooX",
     "boobooPbooRXbopbzDITbooXboobooPbooEXbopbopPbonATbooXboobooPbonUOXbopbonOTbooXboobooPbonEXboobooP",
     "bonUTbooXboobooPbooRXbopbzTITbooXboobooPbooEXbopbopPbonATbooXboobooPbonUOTbopXbopbopPbonOTbooXbo",
     "obooPbonEXboobooPbonUTbooXboobooPbooRXbopbzDDITbopXbopbopPbopEXboqboqPbooATbopXbopbopPbooUOXboqb",
     "oqPbooOTbopXbopbopPbooEXbopbopPbooUTbopXbopbopPbopRXboqbzNDITbopXbopbopPbopEXboqbooATbopXbopbopP",
     "booOTbopXbopbopPbooEXbopbopPbooUTbopXbopbopPbopRXboqbzHNITbopXbopbopPbopETboqXboqboqPbooATbopXbo",
     "pbopPbooUOXboqbooOTbopXbopPbooEXbopbopPbooUTbzNITbooXboobooPbooEXbopbopPbonAXboobooPbonUOXbopbop"]

def characterNameRecordsPart7 : String :=
  String.join
    ["PbonOTbooXboobooPbonEXboobooPbonUTbooXboobooPbooRXbopbzHLITbopXbopbopPbopEXboqboqPbooATbopXbopbo",
     "pPbooUOXboqboqPbooOXbopbopPbooEXbopbopPbooUTbopXbopbopPbopRXboqbooYTbopXbopbopPbopRXboqbzLITbooX",
     "boobooPbooETbopXbopbopPbonATbooXboobooPbonUOTbopXbopbopPbonOTbooXboobooPbonEXboobooPbonUTbooXboo",
     "booPbooRXbopbonYTbooXboobooPbooRXbopbzGITbooXboobooPbooETbopXbopbopPbonATbooXboobooPbonUOTbopXbo",
     "pbopPbonOTbooXboobooPbonETbooXboobooPbonUTbooXboobooPbooRXbopbzKITbooXboobooPbooEXbopbopPbonATbo",
     "oXboobooPbonUOXbopbopPbonOTbooXboobooPbonETbooXboobooPbonUTbooXboobooPbooRXbopbzGGITbopXbopbopEX",
     "boqboqPbooATbopXbopbopPbooUOTboqXboqboqPbooOTbopXbopbopPbooETbopXbopbopPbooUTbopXbopbopPbopRXboq",
     "bzMGIEXboqbooATbopXbopbopPbooUOXboqboqPbooOTbopXbopbopPbooEXbopbopPbooUTbopXbopbopPbopRXboqbzHXI",
     "TbopXbopbopPbopETboqXboqboqPbooATbopXbopbopPbooUOTboqXboqboqPbooOTbopXbopbopPbooEXbopbopPbzNGIEX",
     "boqboqPbooATbopXbopbopPbooUOTboqXboqbooOTbopXbopbopPbooEXbopbopPbzHITbooEXbopbonATbooXboobooPbon",
     "UOTbopXbopbopPbonOTbooXboobooPbonEXboobooPbzWATbooXboobooPbonUOXbopbopPbonOXboobooPbonEXboobooPb",
     "zZITbooXboobooPbooEXbopbopPbonATbooXboobooPbonUOXbopbopPbonOTbooXboobooPbonEXboobooPbonUTbooXboo",
     "booPbooRXbopbonYTbooXboobooPbooRXbopbzCITbooXboobooPbooETbopXbopbopPbonATbooXboobooPbonUOXbopbop",
     "PbonOTbooXboobooPbonEXboobooPbonUTbooXboobooPbooRXbopbonYTbooXboobooPbooRXbopbzZZITbopXbopbopPbo",
     "pETboqXboqboqPbooATbopXbopbopPbooOXbopbopPbooEXbopbopPbooUXbopbopPbopRXboqbooYTbopXbopbopPbopRXb",
     "oqbzNZITbopXbopbopPbopEXboqboqPbooATbopXbopbopPbooUOXboqbooOXbopPbooEXbopbooUXbopbopPbopRXboqboo",
     "YTbopXbopbopPbopRXboqbzSITbooXboobooPbooEXbopbopPbonATbooXboobooPbonUOXbopbopPbonOTbooXboobooPbo",
     "nEXboobooPbonUTbooXboobooPbooRXbopbonYTbooXboobooPbooRXbopbonSITbopXbopbopPbopEXboqboqPbooATbopX",
     "bopbopPbooOTbopXbopbopPbooEXbopbopPbooUTbopXbopbopPbooYTbopXbopbopPbopRXboqbzZHATbopXbopbopPbooU",
     "OXboqboqPbooOTbopXbopbopPbooETbopXbopbopPbooUTbopXbopbopPbopRXboqbooYTbopXbopbopPbopRXboqbzCHATb",
     "opXbopbopPbooUOTboqXboqboqPbooOTbopXbopbopPbooETbopXbopbopPbooUXbopbopPbopRXboqbooYTbopXbopbopPb",
     "opRXboqbzRRAXbopbooUOXboqbooOTbopXbopbopPbooETbopXbopbopPbooUTbopXbopbopPbopRXboqbooYTbopXbopbop",
     "PbopRXboqbzNRATbopXbopbopPbooOXbopbopPbooETbopXbopbopPbooUTbopXbopbopPbopRXboqbooYTbopXbopbopPbo",
     "pRXboqbzSHATbopXbopbopPbooUOXboqboqPbooOTbopXbopbopPbooETbopXbopbopPbooUTbopXbopbopPbopRXboqbooY",
     "TbopXbopbopPbopRXboqbzRATbooXboobooPbonUOXbopbopPbonOTbooXboobooPbonEXboobooPbonUTbooXboobooPboo",
     "RXbopbonYTbooXboobooPbooRXbopbzJITbooXboobooPbooETbopXbopbopPbonUOTbopXbopbopPbonOTbooXboobooPbo",
     "nUTbooXboobooPbooRXbopbonYTbooXboobooPbooRXbopbzQITbooXboobooPbooETbopXbopbopPbonUOTbopXbopbopPb",
     "onOTbooXboobooPbonUTbooXboobooPbooRXbopbonYTbooXboobooPbooRXbopbzJJITbopXbopbopPbopETboqXboqboqP",
     "booUOXboqboqPbooOTbopXbopbopPbooUTbopXbopbopPbopRXboqbooYTbopXbopbopPbzNJITbopXbopbopPbopETboqXb",
     "oqboqPbooUOXboqbooOTbopXbopbopPbooUXbopbopPbopRXboqbooYTbopXbopbopPbopRXboqbonYITbopXbopbopPbopE",
     "TboqXboqboqPbooUOXboqboqPbooOTbopXbopbopPbooUTbopXbopbopPbzXITbooXboobooPbooETbopXbopbopPbonUOXb",
     "opbonOTbooXboobooPbonYTbooXboobooPbooRXbopbzYITbooXboobooPbooETbopXbopbopPbonUOTbopXbopbopPbonOT",
     "booXboobooPbonUTbooXboobooPbooRXbopbonYTbooXboobooPbooRXbopeqRADICAL QOTbyLIbyKITbyNYIPbyCYPbySS",
     "IbyGGOPbzEPbyMIbyHXITbyLYRbyBBUTbyMOPbyYObyPUTbyHXUObyTATbyGAbyZUPbyCYTbyDDURbyBURbyGGUObyNYOPby",
     "TUbyOPbyJJUTbyZOTbyPYTbyHMObyYITbyVURbySHYbyVEPbyZAbyJObyNZUPbyJJYbyGOTbyJJIEbyWObyDUbySHURbyLIE",
     "byCYbzUOPbzIPbyHXOPbySHATbyZURbySHOPbyCHEbyZZIETbyNBIEbyKEkLISU LETTER BAbzPAbonHAbzDAbzTAbonHAb",
     "zGAbzKAbonHAbzJAbzCAbonHAbzDZAbzTSAbooHAbzMAbzNAbzLAbzSAbzZHAbonAbzNGAbzHAbzXAbzHHAbzFAbzWAbzSHA",
     "bzYAbzGHAbzAbonEbzEbonUbzIbzObzUbonEbonHbzOEbzTONE MYA TIborNA POborMYA CYAbovBObovNAbovJEUbsPUN",
     "CTUATION COMMAborFULL STOPbVAI SYLLABLE EEbopNbonHEEbonWEEboqNbonPEEbonBHEEbooEEbonMBEEbonKPEEbo",
     "nMGBEEbonGBEEbonFEEbonVEEbonTEEbooHEEbonDHEEbopHEEbonLEEbonREEbonDEEbonNDEEbonSEEbooHEEbonZEEboo",
     "HEEbonCEEbonJEEbonNJEEbonYEEbonKEEbonNGGEEbonGEEbonMEEbonNEEbooYEEbonIbooNbonHIbopNbonWIbopNbonP",
     "IbonBHIbooIbonMBIbonKPIbonMGBIbonGBIbonFIbonVIbonTIbooHIbonDHIbopHIbonLIbonRIbonDIbonNDIbonSIboo",
     "HIbonZIbooHIbonCIbonJIbonNJIbonYIbonKIbonNGGIbonGIbonMIbonNIbooYIbonAbooNbonNGANbonHAbopNbonWAbo",
     "pNbonPAbonBHAbooAbonMBAbonKPAboqNbonMGBAbonGBAbonFAbonVAbonTAbooHAbonDHAbopHAbonLAbonRAbonDAbonN",
     "DAbonSAbooHAbonZAbooHAbonCAbonJAbonNJAbonYAbonKAbopNbonNGGAbonGAbonMAbonNAbooYAbonOObopNbonHOObo",
     "nWOOboqNbonPOObonBHOObooOObonMBOObonKPOObonMGBOObonGBOObonFOObonVOObonTOObooHOObonDHOObopHOObonL",
     "OObonROObonDOObonNDOObonSOObooHOObonZOObooHOObonCOObonJOObonNJOObonYOObonKOObonNGGOObonGOObonMOO",
     "bonNOObooYOObonUbooNbonHUbopNbonWUbopNbonPUbonBHUbooUbonMBUbonKPUbonMGBUbonGBUbonFUbonVUbonTUboo",
     "HUbonDHUbopHUbonLUbonRUbonDUbonNDUbonSUbooHUbonZUbooHUbonCUbonJUbonNJUbonYUbonKUbonNGGUbonGUbonM",
     "UbonNUbooYUbonObooNbonNGONbonHObopNbonWObopNbonPObonBHObooObonMBObonKPObonMGBObonGBOboqNbonFObon",
     "VObonTObooHObonDHObopHObonLObonRObonDObonNDObonSObooHObonZObooHObonCObonJObonNJObonYObonKObonNGG",
     "ObonGObonMObonNObooYObonEbooNbonNGENbonHEbopNbonWEbopNbonPEbonBHEbooEbonMBEbonKPEboqNbonMGBEbonG",
     "BEboqNbonFEbonVEbonTEbooHEbonDHEbopHEbonLEbonREbonDEbonNDEbonSEbooHEbonZEbooHEbonCEbonJEbonNJEbo",
     "nYEbonKEbonNGGEborNbonGEbopNbonMEbonNEbooYEbooGbonLENGTHENERbrCOMMAbrFULL STOPbrQUESTION MARKbrS",
     "YLLABLE NDOLE FAbotKAbotSOObtMBOL FEENGbyKEENGbyTINGbyNIIbyBANGbyFAAbyTAAbyDANGbzOONGbyKUNGbyTON",
     "GbyDO-ObyJONGbrDIGIT ZERObxONEbxTWObyHREEbxFOURbyIVEbxSIXbyEVENbxEIGHTbxNINEbrSYLLABLE NDOLE MAb",
     "otDObiCYRILLIC CAPITAL LETTER ZEMLYAbwSMALL LETTER ZEMLYAbwCAPITAL LETTER DZELObwSMALL LETTER DZ",
     "ELObwCAPITAL LETTER REVERSED DZEbwSMALL LETTER REVERSED DZEbwCAPITAL LETTER IOTAbwSMALL LETTER I",
     "OTAbwCAPITAL LETTER DJERVbwSMALL LETTER DJERVbwCAPITAL LETTER MONOGRAPH UKbwSMALL LETTER MONOGRA",
     "PH UKbwCAPITAL LETTER BROAD OMEGAbwSMALL LETTER BROAD OMEGAbwCAPITAL LETTER NEUTRAL YERbwSMALL L",
     "ETTER NEUTRAL YERbwCAPITAL LETTER YERU WITH BACK YERbwSMALL LETTER YERU WITH BACK YERbwCAPITAL L",
     "ETTER IOTIFIED YATbwSMALL LETTER IOTIFIED YATbwCAPITAL LETTER REVERSED YUbwSMALL LETTER REVERSED",
     " YUbwCAPITAL LETTER IOTIFIED AbwSMALL LETTER IOTIFIED AbwCAPITAL LETTER CLOSED LITTLE YUSbwSMALL",
     " LETTER CLOSED LITTLE YUSbwCAPITAL LETTER BLENDED YUSbwSMALL LETTER BLENDED YUSbwCAPITAL LETTER ",
     "IOTIFIED CLOSED LITTLE YUSbwSMALL LETTER IOTIFIED CLOSED LITTLE YUSbwCAPITAL LETTER YNbwSMALL LE",
     "TTER YNbwCAPITAL LETTER REVERSED TSEbwSMALL LETTER REVERSED TSEbwCAPITAL LETTER SOFT DEbwSMALL L",
     "ETTER SOFT DEbwCAPITAL LETTER SOFT ELbwSMALL LETTER SOFT ELbwCAPITAL LETTER SOFT EMbwSMALL LETTE",
     "R SOFT EMbwCAPITAL LETTER MONOCULAR ObwSMALL LETTER MONOCULAR ObwCAPITAL LETTER BINOCULAR ObwSMA",
     "LL LETTER BINOCULAR ObwCAPITAL LETTER DOUBLE MONOCULAR ObwSMALL LETTER DOUBLE MONOCULAR ObwLETTE",
     "R MULTIOCULAR OboOMBINING CYRILLIC VZMETbotTEN MILLIONS SIGNbotHUNDRED MILLIONS SIGNbotTHOUSAND ",
     "MILLIONS SIGNbSLAVONIC ASTERISKbCOMBINING CYRILLIC LETTER UKRAINIAN IEbpnIbpnYIbpnUbpnHARD SIGNb",
     "pnYERUbpnSOFT SIGNbpnOMEGAbotKAVYKAbotPAYEROKboYRILLIC KAVYKAbwPAYEROKbwCAPITAL LETTER DWEbwSMAL",
     "L LETTER DWEbwCAPITAL LETTER DZWEbwSMALL LETTER DZWEbwCAPITAL LETTER ZHWEbwSMALL LETTER ZHWEbwCA",
     "PITAL LETTER CCHEbwSMALL LETTER CCHEbwCAPITAL LETTER DZZEbwSMALL LETTER DZZEbwCAPITAL LETTER TE ",
     "WITH MIDDLE HOOKbwSMALL LETTER TE WITH MIDDLE HOOKbwCAPITAL LETTER TWEbwSMALL LETTER TWEbwCAPITA",
     "L LETTER TSWEbwSMALL LETTER TSWEbwCAPITAL LETTER TSSEbwSMALL LETTER TSSEbwCAPITAL LETTER TCHEbwS",
     "MALL LETTER TCHEbwCAPITAL LETTER HWEbwSMALL LETTER HWEbwCAPITAL LETTER SHWEbwSMALL LETTER SHWEbw",
     "CAPITAL LETTER DOUBLE ObwSMALL LETTER DOUBLE ObwCAPITAL LETTER CROSSED ObwSMALL LETTER CROSSED O",
     "bMODIFIER LETTER CYRILLIC HARD SIGNbozSOFT SIGNbCOMBINING CYRILLIC LETTER EFbpnIOTIFIED EbBAMUM ",
     "LETTER AbonKAbonUbonKUbonEEbonREEbonTAEbonObonNYIbonIbonLAbonPAbonRIIbopEEbonLEEEEbonMEEEEbonTAA",
     "bonNDAAbooJAEMbonMbonSUUbonMUbonSHIIbooIbooHEUXbooEUXbonKYEEbooETbonNUAEbopbooJUAEbonYOQbonSHUbo",
     "nYUQbooAbonNSHAbonKEUXbonPEUXbonNJEEbooTEEbonPUEbonWUEbonPEEbonFEEbonRUbonLUbonMIbonNIbonREUXboo",
     "AEbonKENbonNGKWAENbopGAbopAbonSHObonPUAEbonFUbooOMbonWAbonNAbonLIbonPIbonLOQbonKObonMBENbonRENbo",
     "nMENbooAbonTIbonKIbonMObooBAAbonTETbonKPAbonTENbonNTUUbonSAMBAbonFAAMAEbonKOVUUbopGHOMbtCOMBININ",
     "G MARK KOQNDONbovTUKWENTISbtNJAEMLIbtFULL STOPbtCOLONbvMMAbtSEMICOLONbtQUESTION MARKjMODIFIER LE",
     "TTER CHINESE TONE YIN PINGbprANG PINGbprIN SHANGbprANG SHANGbprIN QUbprANG QUbprIN RUbprANG RUbo",
     "qEXTRA-HIGH DOTTED TONE BARboqHIGH DOTTED TONE BARboqMID DOTTED TONE BARboqLOW DOTTED TONE BARbo",
     "qEXTRA-LOW DOTTED TONE BARbowHIGH DOTTED LEFT-STEM TONE BARboqHIGH DOTTED LEFT-STEM TONE BARboqM",
     "ID DOTTED LEFT-STEM TONE BARboqLOW DOTTED LEFT-STEM TONE BARboqEXTRA-LOW DOTTED LEFT-STEM TONE B",
     "ARbowHIGH LEFT-STEM TONE BARboqHIGH LEFT-STEM TONE BARboqMID LEFT-STEM TONE BARboqLOW LEFT-STEM ",
     "TONE BARboqEXTRA-LOW LEFT-STEM TONE BARboqDOT VERTICAL BARbouSLASHbouHORIZONTAL BARboqLOWER RIGH",
     "T CORNER ANGLEboqRAISED UP ARROWboxDOWN ARROWboxEXCLAMATION MARKboxINVERTED EXCLAMATION MARKboqL",
     "OW INVERTED EXCLAMATION MARKboqSTRESS AND HIGH TONEbpoLOW TONEbLATIN CAPITAL LETTER EGYPTOLOGICA",
     "L ALEFbtSMALL LETTER EGYPTOLOGICAL ALEFbtCAPITAL LETTER EGYPTOLOGICAL AINbtSMALL LETTER EGYPTOLO",
     "GICAL AINbtCAPITAL LETTER HENGbtSMALL LETTER HENGbtCAPITAL LETTER TZbtSMALL LETTER TZbtCAPITAL L",
     "ETTER TRESILLObtSMALL LETTER TRESILLObtCAPITAL LETTER CUATRILLObtSMALL LETTER CUATRILLObtCAPITAL",
     " LETTER CUATRILLO WITH COMMAbtSMALL LETTER CUATRILLO WITH COMMAbtLETTER SMALL CAPITAL FbpoSbtCAP",
     "ITAL LETTER AAbtSMALL LETTER AAbtCAPITAL LETTER AObtSMALL LETTER AObtCAPITAL LETTER AUbtSMALL LE",
     "TTER AUbtCAPITAL LETTER AVbtSMALL LETTER AVbtCAPITAL LETTER AV WITH HORIZONTAL BARbtSMALL LETTER",
     " AV WITH HORIZONTAL BARbtCAPITAL LETTER AYbtSMALL LETTER AYbtCAPITAL LETTER REVERSED C WITH DOTb",
     "tSMALL LETTER REVERSED C WITH DOTbtCAPITAL LETTER K WITH STROKEbtSMALL LETTER K WITH STROKEbtCAP",
     "ITAL LETTER K WITH DIAGONAL STROKEbtSMALL LETTER K WITH DIAGONAL STROKEbtCAPITAL LETTER K WITH S",
     "TROKE AND DIAGONAL STROKEbtSMALL LETTER K WITH STROKE AND DIAGONAL STROKEbtCAPITAL LETTER BROKEN",
     " LbtSMALL LETTER BROKEN LbtCAPITAL LETTER L WITH HIGH STROKEbtSMALL LETTER L WITH HIGH STROKEbtC",
     "APITAL LETTER O WITH LONG STROKE OVERLAYbtSMALL LETTER O WITH LONG STROKE OVERLAYbtCAPITAL LETTE",
     "R O WITH LOOPbtSMALL LETTER O WITH LOOPbtCAPITAL LETTER OObtSMALL LETTER OObtCAPITAL LETTER P WI",
     "TH STROKE THROUGH DESCENDERbtSMALL LETTER P WITH STROKE THROUGH DESCENDERbtCAPITAL LETTER P WITH",
     " FLOURISHbtSMALL LETTER P WITH FLOURISHbtCAPITAL LETTER P WITH SQUIRREL TAILbtSMALL LETTER P WIT",
     "H SQUIRREL TAILbtCAPITAL LETTER Q WITH STROKE THROUGH DESCENDERbtSMALL LETTER Q WITH STROKE THRO",
     "UGH DESCENDERbtCAPITAL LETTER Q WITH DIAGONAL STROKEbtSMALL LETTER Q WITH DIAGONAL STROKEbtCAPIT",
     "AL LETTER R ROTUNDAbtSMALL LETTER R ROTUNDAbtCAPITAL LETTER RUM ROTUNDAbtSMALL LETTER RUM ROTUND",
     "AbtCAPITAL LETTER V WITH DIAGONAL STROKEbtSMALL LETTER V WITH DIAGONAL STROKEbtCAPITAL LETTER VY",
     "btSMALL LETTER VYbtCAPITAL LETTER VISIGOTHIC ZbtSMALL LETTER VISIGOTHIC ZbtCAPITAL LETTER THORN ",
     "WITH STROKEbtSMALL LETTER THORN WITH STROKEbtCAPITAL LETTER THORN WITH STROKE THROUGH DESCENDERb",
     "tSMALL LETTER THORN WITH STROKE THROUGH DESCENDERbtCAPITAL LETTER VENDbtSMALL LETTER VENDbtCAPIT",
     "AL LETTER ETbtSMALL LETTER ETbtCAPITAL LETTER ISbtSMALL LETTER ISbtCAPITAL LETTER CONbtSMALL LET",
     "TER CONbMODIFIER LETTER USbLATIN SMALL LETTER DUMbotLUMbotMUMbotNUMbotRUMbtLETTER SMALL CAPITAL ",
     "RUMbtSMALL LETTER TUMbotUMbtCAPITAL LETTER INSULAR DbtSMALL LETTER INSULAR DbtCAPITAL LETTER INS",
     "ULAR FbtSMALL LETTER INSULAR FbtCAPITAL LETTER INSULAR GbovTURNED INSULAR GbtSMALL LETTER TURNED",
     " INSULAR GbtCAPITAL LETTER TURNED LbtSMALL LETTER TURNED LbtCAPITAL LETTER INSULAR RbtSMALL LETT",
     "ER INSULAR RbtCAPITAL LETTER INSULAR SbtSMALL LETTER INSULAR SbtCAPITAL LETTER INSULAR TbtSMALL ",
     "LETTER INSULAR TbMODIFIER LETTER LOW CIRCUMFLEX ACCENTboqCOLONboqSHORT EQUALS SIGNbLATIN CAPITAL",
     " LETTER SALTILLObtSMALL LETTER SALTILLObtCAPITAL LETTER TURNED HbtSMALL LETTER L WITH RETROFLEX ",
     "HOOK AND BELTbtLETTER SINOLOGICAL DOTbtCAPITAL LETTER N WITH DESCENDERbtSMALL LETTER N WITH DESC",
     "ENDERbtCAPITAL LETTER C WITH BARbtSMALL LETTER C WITH BARbpnPALATAL HOOKbotH WITH PALATAL HOOKbt",
     "CAPITAL LETTER B WITH FLOURISHbtSMALL LETTER B WITH FLOURISHbtCAPITAL LETTER F WITH STROKEbtSMAL",
     "L LETTER F WITH STROKEbtCAPITAL LETTER VOLAPUK AEbtSMALL LETTER VOLAPUK AEbtCAPITAL LETTER VOLAP",
     "UK OEbtSMALL LETTER VOLAPUK OEbtCAPITAL LETTER VOLAPUK UEbtSMALL LETTER VOLAPUK UEbtCAPITAL LETT",
     "ER G WITH OBLIQUE STROKEbtSMALL LETTER G WITH OBLIQUE STROKEbtCAPITAL LETTER K WITH OBLIQUE STRO",
     "KEbtSMALL LETTER K WITH OBLIQUE STROKEbtCAPITAL LETTER N WITH OBLIQUE STROKEbtSMALL LETTER N WIT",
     "H OBLIQUE STROKEbtCAPITAL LETTER R WITH OBLIQUE STROKEbtSMALL LETTER R WITH OBLIQUE STROKEbtCAPI",
     "TAL LETTER S WITH OBLIQUE STROKEbtSMALL LETTER S WITH OBLIQUE STROKEbtCAPITAL LETTER H WITH HOOK",
     "bovREVERSED OPEN EbovSCRIPT GbovL WITH BELTbovSMALL CAPITAL IbtLETTER SMALL CAPITAL QbtCAPITAL L",
     "ETTER TURNED KbppTbovJ WITH CROSSED-TAILbovCHIbovBETAbtSMALL LETTER BETAbtCAPITAL LETTER OMEGAbt",
     "SMALL LETTER OMEGAbtCAPITAL LETTER U WITH STROKEbtSMALL LETTER U WITH STROKEbtCAPITAL LETTER GLO",
     "TTAL AbtSMALL LETTER GLOTTAL AbtCAPITAL LETTER GLOTTAL IbtSMALL LETTER GLOTTAL IbtCAPITAL LETTER",
     " GLOTTAL UbtSMALL LETTER GLOTTAL UbtCAPITAL LETTER OLD POLISH ObtSMALL LETTER OLD POLISH ObtCAPI",
     "TAL LETTER ANGLICANA WbtSMALL LETTER ANGLICANA WbtCAPITAL LETTER C WITH PALATAL HOOKbovS WITH HO",
     "OKbovZ WITH PALATAL HOOKbovD WITH SHORT STROKE OVERLAYbtSMALL LETTER D WITH SHORT STROKE OVERLAY",
     "btCAPITAL LETTER S WITH SHORT STROKE OVERLAYbtSMALL LETTER S WITH SHORT STROKE OVERLAYgtCAPITAL ",
     "LETTER CLOSED INSULAR GbtSMALL LETTER CLOSED INSULAR GcotDOUBLE THORNcpnWYNNbtCAPITAL LETTER MID",
     "DLE SCOTS SbtSMALL LETTER MIDDLE SCOTS SbtCAPITAL LETTER SIGMOID SbtSMALL LETTER SIGMOID SbmMODI",
     "FIER LETTER CAPITAL CboyFboyQbLATIN CAPITAL LETTER REVERSED HALF HbtSMALL LETTER REVERSED HALF H",
     "btEPIGRAPHIC LETTER SIDEWAYS IbMODIFIER LETTER CAPITAL H WITH STROKEboqSMALL LIGATURE OEbLATIN L",
     "ETTER SMALL CAPITAL TURNED MbtEPIGRAPHIC LETTER REVERSED FbpuPboyINVERTED Mboz LONGAboyARCHAIC M",
     "bSYLOTI NAGRI LETTER AbouIbonSIGN DVISVARAbonLETTER UbouEbouObonSIGN HASANTAbonLETTER KObovHObou",
     "GObovHObonSIGN ANUSVARAbonLETTER CObovHObouJObovHObouTTObowHObouDDObowHObouTObovHObouDObovHObouN",
     "ObouPObovHObouBObovHObouMObouRObouLObouRRObouSObouHObonVOWEL SIGN AboyIboyUboyEboyOObonPOETRY MA",
     "RK-1boz2boz3boz4bonSIGN ALTERNATE HASANTAeNORTH INDIC FRACTION ONE QUARTERbozHALFbovTHREE QUARTE",
     "RSbovONE SIXTEENTHbozEIGHTHbovTHREE SIXTEENTHSbzQUARTER MARKbzPLACEHOLDER MARKbzRUPEE MARKbzQUAN",
     "TITY MARKhPHAGS-PA LETTER KAborHAboqGAboqNGAboqCAborHAboqJAboqNYAboqTAborHAboqDAboqNAboqPAborHAb",
     "oqBAboqMAboqTSAbosHAboqDZAboqWAboqZHAborAboqSMALL AboqYAboqRAboqLAboqSHAborAboqHAboqAboqIboqUboq",
     "EboqOboqQAboqXAboqFAboqGGAboqEEbwSUBJOINED LETTER WAbpnYAbwLETTER TTAbosHAboqDDAboqNNAboqALTERNA",
     "TE YAboqVOICELESS SHAbovD HAboqASPIRATED FAbwSUBJOINED LETTER RAbyPERFIXED LETTER RAbwLETTER CAN",
     "DRABINDUbwSINGLE HEAD MARKbwDOUBLE HEAD MARKbwMARK SHADbooDOUBLE SHADjSAURASHTRA SIGN ANUSVARAbo",
     "qVISARGAbyLETTER AbotAbosIbotIbosUbotUbosVOCALIC RbpoRbpnLbpoLbosEbotEbosAIbosObotObosAUbosKAbot",
     "HAbosGAbotHAbosNGAbosCAbotHAbosJAbotHAbosNYAbosTTAbouHAbosDDAbouHAbosNNAbosTAbotHAbosDAbotHAbosN",
     "AbosPAbotHAbosBAbotHAbosMAbosYAbosRAbosLAbosVAbosSHAbotSAbotAbosHAbosLLAbyCONSONANT SIGN HAARUby",
     "VOWEL SIGN AAbowIboxIbowUboxUbowVOCALIC RbpsRbprLbpsLbowEboxEbowAIbowOboxObowAUbySIGN VIRAMAboqC",
     "ANDRABINDUjyDANDAbzOUBLE DANDAbzIGIT ZEROborONEborTWObosHREEborFOURbosIVEborSIXbosEVENborEIGHTbo",
     "rNINEhCOMBINING DEVANAGARI DIGIT ZERObpoONEbpoTWObppHREEbpoFOURbppIVEbpoSIXbppEVENbpoEIGHTbpoNIN",
     "EbovLETTER AbppUbppKAbppNAbppPAbppRAbppVIbovSIGN AVAGRAHAbDEVANAGARI SIGN SPACING CANDRABINDUboq",
     "CANDRABINDU VIRAMAboqDOUBLE CANDRABINDU VIRAMAboqCANDRABINDU TWObpqHREEbppAVAGRAHAboqPUSHPIKAbyG",
     "AP FILLERbyCARETbyHEADSTROKEbySIGN SIDDHAMbyJAIN OMbyLETTER AYbyVOWEL SIGN AYbKAYAH LI DIGIT ZER",
     "ObopONEbopTWOboqHREEbopFOURboqIVEbopSIXboqEVENbopEIGHTbopNINEbwLETTER KAborHAboqGAboqNGAboqSAbor",
     "HAboqZAboqNYAboqTAboqHTAboqNAboqPAborHAboqMAboqDAboqBAboqRAboqYAboqLAboqWAboqTHAboqHAboqVAboqCAb",
     "oqAboqOEboqIboqOObwVOWEL UEbopEbopUbopEEbopObwTONE PLOPHUbooCALYAbot PLOPHUbwSIGN CWIbooSHYAbREJ",
     "ANG LETTER KAbooGAbooNGAbooTAbooDAbooNAbooPAbooBAbooMAbooCAbooJAbooNYAbooSAbooRAbooLAbooYAbooWAb",
     "ooHAbooMBAbooNGGAbopDAbopYJAbooAbuVOWEL SIGN IbosUbosEbosAIbosObosAUbosEUbotAbuCONSONANT SIGN NG",
     "boxbowRbowHbuVIRAMAmuSECTION MARKbHANGUL CHOSEONG TIKEUT-MIEUMboxPIEUPboxSIOSboxCIEUCboqRIEUL-KI",
     "YEOKbowSSANGKIYEOKbowTIKEUTbowSSANGTIKEUTbowMIEUMbowPIEUPbowSSANGPIEUPbowKAPYEOUNPIEUPbowSIOSbow",
     "CIEUCbowKHIEUKHboqMIEUM-KIYEOKbowTIKEUTbowSIOSboqPIEUP-SIOS-THIEUTHbowKHIEUKHbowHIEUHboqSSANGSIO",
     "S-PIEUPboqIEUNG-RIEULbowHIEUHboqSSANGCIEUC-HIEUHbovTHIEUTHboqPHIEUPH-HIEUHboqHIEUH-SIOSboqSSANGY",
     "EORINHIEUHeJAVANESE SIGN PANYANGGAbooCECAKbooLAYARbooWIGNYANbwLETTER AboqI KAWIborborIboqUboqPA ",
     "CEREKboqNGA LELETboz RASWADIboqEboqAIboqOboqKAbos SASAKbotMURDAboqGAbos MURDAboqNGAboqCAbos MURD",
     "AboqJAboqNYA MURDAboqJA MAHAPRANAboqNYAboqTTAbot MAHAPRANAboqDDAbot MAHAPRANAboqNA MURDAboqTAbos",
     " MURDAboqDAbos MAHAPRANAboqNAboqPAbos MURDAboqBAbos MURDAboqMAboqYAboqRAbos AGUNGboqLAboqWAboqSA",
     " MURDAbouAHAPRANAbosboqHAbwSIGN CECAK TELUbwVOWEL SIGN TARUNGbovOLONGbouWULUboy MELIKbouSUKUboy ",
     "MENDUTbouTALINGbouDIRGA MUREbouPEPETbwCONSONANT SIGN KERETboyPENGKALboyCAKRAbwPANGKONbwLEFT RERE",
     "NGGANbwRIGHT RERENGGANbwPADA ANDAPbooMADYAbooLUHURbooWINDUbooPANGKATbooLINGSAbopUNGSIbooADEGbos ",
     "ADEGbooPISELEHbwTURNED PADA PISELEHcwPANGRANGKEPbwDIGIT ZERObopONEbopTWOboqHREEbopFOURboqIVEbopS",
     "IXboqEVENbopEIGHTbopNINEfwPADA TIRTA TUMETESbooISEN-ISENbMYANMAR LETTER SHAN GHAbouCHAbouJHAbouN",
     "NAbouBHAbvSIGN SHAN SAWbvMODIFIER LETTER SHAN REDUPLICATIONbvLETTER TAI LAING NYAbozFAbozGAbpnHA",
     "bozJAbpnHAbozDDAbpoHAbozNNAbvTAI LAING DIGIT ZEROboyONEboyTWObozHREEboyFOURbozIVEboySIXbozEVENbo",
     "yEIGHTboyNINEbvLETTER TAI LAING LLAbozDAbpnHAbozBAbpnHAcCHAM LETTER AbzIbzUbzEbzAIbzObzKAbonHAbz",
     "GAbonHAbzNGUEbooAbzCHAbooHAbzJAbonHAbzNHUEbooAbooJAbzTAbonHAbzDAbonHAbzNUEbonAbzDDAbzPAbonPAbonH",
     "AbzBAbonHAbzMUEbonAbzBBAbzYAbzRAbzLAbzVAbzSSAbonAbzHAbsVOWEL SIGN AAboqIborIboqEIboqUboqOEborboq",
     "AIborUboqUEbsCONSONANT SIGN YAbouRAbouLAbouWAksLETTER FINAL KbosGbosNGbsCONSONANT SIGN FINAL NGb",
     "sLETTER FINAL CHbosTbosNbosPbosYbosRbosLbosSSbsCONSONANT SIGN FINAL MbpnHdsDIGIT ZERObyONEbyTWOb",
     "zHREEbyFOURbzIVEbySIXbzEVENbyEIGHTbyNINEdsPUNCTUATION SPIRALborDANDAbosOUBLE DANDAborTRIPLE DAND",
     "AbMYANMAR LETTER KHAMTI GAbowCAboxHAbowJAboxHAbowNYAbowTTAboyHAbowDDAboyHAboxHAbowNAbowSAbowHAbo",
     "xHAbowFAbvMODIFIER LETTER KHAMTI REDUPLICATIONbvLETTER KHAMTI XAbowZAbowRAbwOGOGRAM KHAMTI OAYbo",
     "yQNboyHMbvSYMBOL AITON EXCLAMATIONbovONEbovTWObvLETTER AITON RAbvSIGN PAO KAREN TONEbonTAI LAING",
     " TONE-2bpp5bvLETTER SHWE PALAUNG CHAbppSHAbTAI VIET LETTER LOW KOboqHIGH KOboqLOW KHOboqHIGH KHO",
     "boqLOW KHHOboqHIGH KHHOboqLOW GOboqHIGH GOboqLOW NGOboqHIGH NGOboqLOW COboqHIGH COboqLOW CHOboqH",
     "IGH CHOboqLOW SOboqHIGH SOboqLOW NYOboqHIGH NYOboqLOW DOboqHIGH DOboqLOW TOboqHIGH TOboqLOW THOb",
     "oqHIGH THOboqLOW NOboqHIGH NOboqLOW BOboqHIGH BOboqLOW POboqHIGH POboqLOW PHOboqHIGH PHOboqLOW F",
     "OboqHIGH FOboqLOW MOboqHIGH MOboqLOW YOboqHIGH YOboqLOW ROboqHIGH ROboqLOW LOboqHIGH LOboqLOW VO",
     "boqHIGH VOboqLOW HOboqHIGH HOboqLOW OboqHIGH ObwMAI KANGbwVOWEL AAbopIbopUEboqbopEbopObwMAI KHIT",
     "bwVOWEL IAbopUEAboqAbopAUEboqYboqNboqMbwTONE MAI EKbosNUENGbosTHObosSONGbmwSYMBOL KONboqNUENGboq",
     "SAMboqHO HOIboqKOI KOIbMEETEI MAYEK LETTER EbouObouCHAbouNYAbouTTAbowHAbouDDAbowHAbouNNAbouSHAbo",
     "vSAbonVOWEL SIGN IIboyUUboyAAIbozUbozAUbonCHEIKHANbonAHANG KHUDAMbooNJIbonSYLLABLE REPETITION MA",
     "RKbonWORD REPETITION MARKbonVOWEL SIGN VISARGAbooIRAMAlETHIOPIC SYLLABLE TTHUbovIbovAAbovEEbowbo",
     "vOdosDDHUbovIbovAAbovEEbowbovOdotZUbouIbouAAbouEEbovbouOkosCCHHAbowUbowIbowAAbowEEboxbowOcosBBAb",
     "ouUbouIbouAAbouEEbovbouOcLATIN SMALL LETTER BARRED ALPHAbotA REVERSED-SCHWAbotBLACKLETTER EbouAR",
     "RED EbotE WITH FLOURISHbotLENIS FbotSCRIPT G WITH CROSSED-TAILbotL WITH INVERTED LAZY SbpnDOUBLE",
     " MIDDLE TILDEbpnMIDDLE RINGbotM WITH CROSSED-TAILbotN WITH CROSSED-TAILbotENG WITH CROSSED-TAILb",
     "otBLACKLETTER Obpt WITH STROKEbotOPEN O WITH STROKEbotINVERTED OEbotTURNED OE WITH STROKEbpvHORI",
     "ZONTAL STROKEbpo OPEN-Obpv WITH STROKEbotSTIRRUP RbtLETTER SMALL CAPITAL R WITH RIGHT LEGbtSMALL",
     " LETTER R WITHOUT HANDLEbotDOUBLE RbotR WITH CROSSED-TAILbotDOUBLE R WITH CROSSED-TAILbotSCRIPT ",
     "Rbpo WITH RINGbotBASELINE ESHbotU WITH SHORT RIGHT LEGbovBAR WITH SHORT RIGHT LEGbouIbotTURNED U",
     "IbotU WITH LEFT HOOKbotCHIbow WITH LOW RIGHT RINGbptLEFT SERIFbotX WITH LOW RIGHT RINGbppNG LEFT",
     " LEGbqn AND LOW RIGHT RINGbqoWITH SERIFbotY WITH SHORT RIGHT LEGbMODIFIER BREVE WITH INVERTED BR",
     "EVEbwLETTER SMALL HENGbowL WITH INVERTED LAZY SbpqMIDDLE TILDEbowU WITH LEFT HOOKbLATIN SMALL LE",
     "TTER SAKHA YATbotIOTIFIED EbotOPEN OEbotUObotINVERTED ALPHAbGREEK LETTER SMALL CAPITAL OMEGAbLAT",
     "IN SMALL LETTER DZ DIGRAPH WITH RETROFLEX HOOKbotTS DIGRAPH WITH RETROFLEX HOOKbouURNED R WITH M",
     "IDDLE TILDEbMODIFIER LETTER SMALL TURNED WboqLEFT TACKboqRIGHT TACKfCHEROKEE SMALL LETTER AbowEb",
     "owIbowObowUbowVbowGAbowKAbowGEboxIboxOboxUboxVbowHAboxEboxIboxOboxUboxVbowLAboxEboxIboxOboxUboxV",
     "bowMAboxEboxIboxOboxUbowNAbowHNAbowNAHboxEboxIboxOboxUboxVbowQUAboyEboyIboyOboyUboyVbowSAboxboxE",
     "boxIboxOboxUboxVbowDAbowTAbowDEbowTEbowDIbowTIbowDOboxUboxVboxLAbowTLAboyEboyIboyOboyUboyVboxSAb",
     "oyEboyIboyOboyUboyVbowWAboxEboxIboxOboxUboxVbowYAbMEETEI MAYEK LETTER KOKbouSAMbouLAIbouMITbouPA",
     "bouNAbouCHILbouTILbouKHOUbouNGOUbouTHOUbouWAIbouYANGbouHUKbouUNbouIbouPHAMbouATIYAbouGOKbouJHAMb",
     "ouRAIbouBAbouJILbouDILbouGHOUbouDHOUbouBHAMbouKOK LONSUMbouLAI LONSUMbouMIT LONSUMbouPA LONSUMbo",
     "uNA LONSUMbouTIL LONSUMbouNGOU LONSUMbouI LONSUMbonVOWEL SIGN ONAPboyINAPboyANAPboyYENAPboySOUNA",
     "PboyUNAPboyCHEINAPboyNUNGbonCHEIKHEIbonLUM IYEKbonAPUN IYEKdonDIGIT ZERObotONEbotTWObouHREEbotFO",
     "URbouIVEbotSIXbouEVENbotEIGHTbotNINEfbclHANGUL JUNGSEONG O-YEObotO-IborYO-AbovEbouEOborU-YEObotI",
     "-IborYU-AEbouOborEU-AbouEObovbouOborI-YA-ObovEbouEObovbotO-IbotYObouUbotIborARAEA-AboxEfvONGSEON",
     "G NIEUN-RIEULboxCHIEUCHborSSANGTIKEUTbpp-PIEUPborTIKEUT-PIEUPboySIOSbpp-KIYEOKboyCIEUCbozHIEUCHb",
     "oyTHIEUTHborRIEUL-SSANGKIYEOKboxKIYEOK-HIEUHborSSANGRIEUL-KHIEUKHborRIEUL-MIEUM-HIEUHboxPIEUP-TI",
     "KEUTbpqPHIEUPHboxYESIEUNGbozORINHIEUH-HIEUHborKAPYEOUNRIEULborMIEUM-NIEUNboxSSANGNIEUNborSSANGMI",
     "EUMborMIEUM-PIEUP-SIOSboxCIEUCborPIEUP-TIKEUTboxRIEUL-PHIEUPHboxMIEUMborSSANGPIEUPborPIEUP-SIOS-",
     "TIKEUTboxCIEUCboyHIEUCHborSIOS-MIEUMbowKAPYEOUNPIEUPbosSANGSIOS-KIYEOKbpoTIKEUTbosIOS-PANSIOSbow",
     "CIEUCboxHIEUCHbowTHIEUTHbowHIEUHborPANSIOS-PIEUPbozKAPYEOUNPIEUPborYESIEUNG-MIEUMbpnHIEUHborCIEU",
     "C-PIEUPboxSSANGPIEUPborSSANGCIEUCborPHIEUPH-SIOSbozTHIEUTHdladCJK COMPATIBILITY IDEOGRAPH-F900bp",
     "s1bps2bps3bps4bps5bps6bps7bps8bps9bpsAbpsBbpsCbpsDbpsEbpsFbpr10bps1bps2bps3bps4bps5bps6bps7bps8b",
     "ps9bpsAbpsBbpsCbpsDbpsEbpsFbpr20bps1bps2bps3bps4bps5bps6bps7bps8bps9bpsAbpsBbpsCbpsDbpsEbpsFbpr3",
     "0bps1bps2bps3bps4bps5bps6bps7bps8bps9bpsAbpsBbpsCbpsDbpsEbpsFbpr40bps1bps2bps3bps4bps5bps6bps7bp",
     "s8bps9bpsAbpsBbpsCbpsDbpsEbpsFbpr50bps1bps2bps3bps4bps5bps6bps7bps8bps9bpsAbpsBbpsCbpsDbpsEbpsFb",
     "pr60bps1bps2bps3bps4bps5bps6bps7bps8bps9bpsAbpsBbpsCbpsDbpsEbpsFbpr70bps1bps2bps3bps4bps5bps6bps",
     "7bps8bps9bpsAbpsBbpsCbpsDbpsEbpsFbpr80bps1bps2bps3bps4bps5bps6bps7bps8bps9bpsAbpsBbpsCbpsDbpsEbp",
     "sFbpr90bps1bps2bps3bps4bps5bps6bps7bps8bps9bpsAbpsBbpsCbpsDbpsEbpsFbprA0bps1bps2bps3bps4bps5bps6",
     "bps7bps8bps9bpsAbpsBbpsCbpsDbpsEbpsFbprB0bps1bps2bps3bps4bps5bps6bps7bps8bps9bpsAbpsBbpsCbpsDbps",
     "EbpsFbprC0bps1bps2bps3bps4bps5bps6bps7bps8bps9bpsAbpsBbpsCbpsDbpsEbpsFbprD0bps1bps2bps3bps4bps5b",
     "ps6bps7bps8bps9bpsAbpsBbpsCbpsDbpsEbpsFbprE0bps1bps2bps3bps4bps5bps6bps7bps8bps9bpsAbpsBbpsCbpsD",
     "bpsEbpsFbprF0bps1bps2bps3bps4bps5bps6bps7bps8bps9bpsAbpsBbpsCbpsDbpsEbpsFbpqA00bps1bps2bps3bps4b",
     "ps5bps6bps7bps8bps9bpsAbpsBbpsCbpsDbpsEbpsFbpr10bps1bps2bps3bps4bps5bps6bps7bps8bps9bpsAbpsBbpsC",
     "bpsDbpsEbpsFbpr20bps1bps2bps3bps4bps5bps6bps7bps8bps9bpsAbpsBbpsCbpsDbpsEbpsFbpr30bps1bps2bps3bp",
     "s4bps5bps6bps7bps8bps9bpsAbpsBbpsCbpsDbpsEbpsFbpr40bps1bps2bps3bps4bps5bps6bps7bps8bps9bpsAbpsBb",
     "psCbpsDbpsEbpsFbpr50bps1bps2bps3bps4bps5bps6bps7bps8bps9bpsAbpsBbpsCbpsDbpsEbpsFbpr60bps1bps2bps",
     "3bps4bps5bps6bps7bps8bps9bpsAbpsBbpsCbpsDdpr70bps1bps2bps3bps4bps5bps6bps7bps8bps9bpsAbpsBbpsCbp",
     "sDbpsEbpsFbpr80bps1bps2bps3bps4bps5bps6bps7bps8bps9bpsAbpsBbpsCbpsDbpsEbpsFbpr90bps1bps2bps3bps4",
     "bps5bps6bps7bps8bps9bpsAbpsBbpsCbpsDbpsEbpsFbprA0bps1bps2bps3bps4bps5bps6bps7bps8bps9bpsAbpsBbps",
     "CbpsDbpsEbpsFbprB0bps1bps2bps3bps4bps5bps6bps7bps8bps9bpsAbpsBbpsCbpsDbpsEbpsFbprC0bps1bps2bps3b",
     "ps4bps5bps6bps7bps8bps9bpsAbpsBbpsCbpsDbpsEbpsFbprD0bps1bps2bps3bps4bps5bps6bps7bps8bps9daLATIN ",
     "SMALL LIGATURE FFbowIbowLbowFIboxLbovLONG S TbovSTbaARMENIAN SMALL LIGATURE MEN NOWbppECHbppINIb",
     "oyVEW NOWboyMEN XEHgHEBREW LETTER YOD WITH HIRIQbuPOINT JUDEO-SPANISH VARIKAbuLIGATURE YIDDISH Y",
     "OD YOD PATAHbvETTER ALTERNATIVE AYINbooWIDE ALEFbotDALETbotHEbotKAFbotLAMEDbotFINAL MEMbotRESHbo",
     "tTAVbooALTERNATIVE PLUS SIGNbooSHIN WITH SHIN DOTbozIN DOTboyDAGESH AND SHIN DOTbpxIN DOTbooALEF",
     " WITH PATAHboyQAMATSboyMAPIQbooBET WITH DAGESHbooGIMEL WITH DAGESHbooDALET WITH DAGESHbooHE WITH",
     " MAPIQbooVAV WITH DAGESHbooZAYIN WITH DAGESHcooTET WITH DAGESHbooYOD WITH DAGESHbooFINAL KAF WIT",
     "H DAGESHbooKAF WITH DAGESHbooLAMED WITH DAGESHcooMEM WITH DAGESHcooNUN WITH DAGESHbooSAMEKH WITH",
     " DAGESHcooFINAL PE WITH DAGESHbooPE WITH DAGESHcooTSADI WITH DAGESHbooQOF WITH DAGESHbooRESH WIT",
     "H DAGESHbooSHIN WITH DAGESHbooTAV WITH DAGESHbooVAV WITH HOLAMbooBET WITH RAFEbooKAF WITH RAFEbo",
     "oPE WITH RAFEbvIGATURE ALEF LAMEDbARABIC LETTER ALEF WASLA ISOLATED FORMbozFINAL FORMbooBEEH ISO",
     "LATED FORMbotFINAL FORMbotINITIAL FORMbotMEDIAL FORMbooPEH ISOLATED FORMbosFINAL FORMbosINITIAL ",
     "FORMbosMEDIAL FORMbooBEHEH ISOLATED FORMbouFINAL FORMbouINITIAL FORMbouMEDIAL FORMbooTTEHEH ISOL",
     "ATED FORMbovFINAL FORMbovINITIAL FORMbovMEDIAL FORMbopEHEH ISOLATED FORMbouFINAL FORMbouINITIAL ",
     "FORMbouMEDIAL FORMbopTEH ISOLATED FORMbotFINAL FORMbotINITIAL FORMbotMEDIAL FORMbooVEH ISOLATED ",
     "FORMbosFINAL FORMbosINITIAL FORMbosMEDIAL FORMbooPEHEH ISOLATED FORMbouFINAL FORMbouINITIAL FORM",
     "bouMEDIAL FORMbooDYEH ISOLATED FORMbotFINAL FORMbotINITIAL FORMbotMEDIAL FORMbooNYEH ISOLATED FO",
     "RMbotFINAL FORMbotINITIAL FORMbotMEDIAL FORMbooTCHEH ISOLATED FORMbouFINAL FORMbouINITIAL FORMbo",
     "uMEDIAL FORMbotEH ISOLATED FORMbowFINAL FORMbowINITIAL FORMbowMEDIAL FORMbooDDAHAL ISOLATED FORM",
     "bovFINAL FORMbopAHAL ISOLATED FORMbouFINAL FORMbopUL ISOLATED FORMbosFINAL FORMbopDAL ISOLATED F",
     "ORMbotFINAL FORMbooJEH ISOLATED FORMbosFINAL FORMbooRREH ISOLATED FORMbotFINAL FORMbooKEHEH ISOL",
     "ATED FORMbouFINAL FORMbouINITIAL FORMbouMEDIAL FORMbooGAF ISOLATED FORMbosFINAL FORMbosINITIAL F",
     "ORMbosMEDIAL FORMbopUEH ISOLATED FORMbotFINAL FORMbotINITIAL FORMbotMEDIAL FORMbooNGOEH ISOLATED",
     " FORMbouFINAL FORMbouINITIAL FORMbouMEDIAL FORMbopOON GHUNNA ISOLATED FORMbpnFINAL FORMbooRNOON ",
     "ISOLATED FORMbouFINAL FORMbouINITIAL FORMbouMEDIAL FORMbooHEH WITH YEH ABOVE ISOLATED FORMbpuFIN",
     "AL FORMbosGOAL ISOLATED FORMboxFINAL FORMboxINITIAL FORMboxMEDIAL FORMbosDOACHASHMEE ISOLATED FO",
     "RMbprFINAL FORMbprINITIAL FORMbprMEDIAL FORMbooYEH BARREE ISOLATED FORMbozFINAL FORMbozWITH HAMZ",
     "A ABOVE ISOLATED FORMbqqFINAL FORMbuSYMBOL DOT ABOVEbosBELOWbooTWO DOTS ABOVEboxBELOWbopHREE DOT",
     "S ABOVEbozBELOWbozPOINTING DOWNWARDS ABOVEbqsBELOWbooFOUR DOTS ABOVEboyBELOWbooDOUBLE VERTICAL B",
     "AR BELOWbooTWO DOTS VERTICALLY ABOVEbpvBELOWbooRINGbooSMALL TAH ABOVEboyBELOWbooWASLA ABOVEbeuLE",
     "TTER NG ISOLATED FORMborFINAL FORMborINITIAL FORMborMEDIAL FORMbooU ISOLATED FORMboqFINAL FORMbo",
     "oOE ISOLATED FORMborFINAL FORMbooYU ISOLATED FORMborFINAL FORMbooU WITH HAMZA ABOVE ISOLATED FOR",
     "MbooVE ISOLATED FORMborFINAL FORMbooKIRGHIZ OE ISOLATED FORMbozFINAL FORMbowYU ISOLATED FORMbozF",
     "INAL FORMbooE ISOLATED FORMboqFINAL FORMboqINITIAL FORMboqMEDIAL FORMbooUIGHUR KAZAKH KIRGHIZ AL",
     "EF MAKSURA INITIAL FORMbqxMEDIAL FORMbvIGATURE YEH WITH HAMZA ABOVE WITH ALEF ISOLATED FORMbqvFI",
     "NAL FORMbqrE ISOLATED FORMbqtFINAL FORMbqqWAW ISOLATED FORMbquFINAL FORMbqqU ISOLATED FORMbqsFIN",
     "AL FORMbqqOE ISOLATED FORMbqtFINAL FORMbqqYU ISOLATED FORMbqtFINAL FORMbqqE ISOLATED FORMbqsFINA",
     "L FORMbqsINITIAL FORMboqUIGHUR KIRGHIZ YEH WITH HAMZA ABOVE WITH ALEF MAKSURA ISOLATED FORMbssFI",
     "NAL FORMbssINITIAL FORMbvETTER FARSI YEH ISOLATED FORMboyFINAL FORMboyINITIAL FORMboyMEDIAL FORM",
     "bvIGATURE YEH WITH HAMZA ABOVE WITH JEEM ISOLATED FORMbqqHAH ISOLATED FORMbqqMEEM ISOLATED FORMb",
     "qqALEF MAKSURA ISOLATED FORMbqqYEH ISOLATED FORMboqBEH WITH JEEM ISOLATED FORMbozHAH ISOLATED FO",
     "RMbozKHAH ISOLATED FORMbozMEEM ISOLATED FORMbozALEF MAKSURA ISOLATED FORMbozYEH ISOLATED FORMboq",
     "TEH WITH JEEM ISOLATED FORMbozHAH ISOLATED FORMbozKHAH ISOLATED FORMbozMEEM ISOLATED FORMbozALEF",
     " MAKSURA ISOLATED FORMbozYEH ISOLATED FORMborHEH WITH JEEM ISOLATED FORMbpnMEEM ISOLATED FORMbpn",
     "ALEF MAKSURA ISOLATED FORMbpnYEH ISOLATED FORMboqJEEM WITH HAH ISOLATED FORMbpnMEEM ISOLATED FOR",
     "MboqHAH WITH JEEM ISOLATED FORMbozMEEM ISOLATED FORMboqKHAH WITH JEEM ISOLATED FORMbpnHAH ISOLAT",
     "ED FORMbpnMEEM ISOLATED FORMboqSEEN WITH JEEM ISOLATED FORMbpnHAH ISOLATED FORMbpnKHAH ISOLATED "]

def characterNameRecordsPart8 : String :=
  String.join
    ["FORMbpnMEEM ISOLATED FORMborAD WITH HAH ISOLATED FORMbozMEEM ISOLATED FORMboqDAD WITH JEEM ISOLA",
     "TED FORMbozHAH ISOLATED FORMbozKHAH ISOLATED FORMbozMEEM ISOLATED FORMboqTAH WITH HAH ISOLATED F",
     "ORMbozMEEM ISOLATED FORMboqZAH WITH MEEM ISOLATED FORMboqAIN WITH JEEM ISOLATED FORMbozMEEM ISOL",
     "ATED FORMboqGHAIN WITH JEEM ISOLATED FORMbpoMEEM ISOLATED FORMboqFEH WITH JEEM ISOLATED FORMbozH",
     "AH ISOLATED FORMbozKHAH ISOLATED FORMbozMEEM ISOLATED FORMbozALEF MAKSURA ISOLATED FORMbozYEH IS",
     "OLATED FORMboqQAF WITH HAH ISOLATED FORMbozMEEM ISOLATED FORMbozALEF MAKSURA ISOLATED FORMbozYEH",
     " ISOLATED FORMboqKAF WITH ALEF ISOLATED FORMbozJEEM ISOLATED FORMbozHAH ISOLATED FORMbozKHAH ISO",
     "LATED FORMbozLAM ISOLATED FORMbozMEEM ISOLATED FORMbozALEF MAKSURA ISOLATED FORMbozYEH ISOLATED ",
     "FORMboqLAM WITH JEEM ISOLATED FORMbozHAH ISOLATED FORMbozKHAH ISOLATED FORMbozMEEM ISOLATED FORM",
     "bozALEF MAKSURA ISOLATED FORMbozYEH ISOLATED FORMboqMEEM WITH JEEM ISOLATED FORMbpnHAH ISOLATED ",
     "FORMbpnKHAH ISOLATED FORMbpnMEEM ISOLATED FORMbpnALEF MAKSURA ISOLATED FORMbpnYEH ISOLATED FORMb",
     "oqNOON WITH JEEM ISOLATED FORMbpnHAH ISOLATED FORMbpnKHAH ISOLATED FORMbpnMEEM ISOLATED FORMbpnA",
     "LEF MAKSURA ISOLATED FORMbpnYEH ISOLATED FORMboqHEH WITH JEEM ISOLATED FORMbozMEEM ISOLATED FORM",
     "bozALEF MAKSURA ISOLATED FORMbozYEH ISOLATED FORMboqYEH WITH JEEM ISOLATED FORMbozHAH ISOLATED F",
     "ORMbozKHAH ISOLATED FORMbozMEEM ISOLATED FORMbozALEF MAKSURA ISOLATED FORMbozYEH ISOLATED FORMbo",
     "qTHAL WITH SUPERSCRIPT ALEF ISOLATED FORMboqREH WITH SUPERSCRIPT ALEF ISOLATED FORMboqALEF MAKSU",
     "RA WITH SUPERSCRIPT ALEF ISOLATED FORMboqSHADDA WITH DAMMATAN ISOLATED FORMbppKASRATAN ISOLATED ",
     "FORMbppFATHA ISOLATED FORMbppDAMMA ISOLATED FORMbppKASRA ISOLATED FORMbppSUPERSCRIPT ALEF ISOLAT",
     "ED FORMboqYEH WITH HAMZA ABOVE WITH REH FINAL FORMbqqZAIN FINAL FORMbqqMEEM FINAL FORMbqqNOON FI",
     "NAL FORMbqqALEF MAKSURA FINAL FORMbqqYEH FINAL FORMboqBEH WITH REH FINAL FORMbozZAIN FINAL FORMb",
     "ozMEEM FINAL FORMbozNOON FINAL FORMbozALEF MAKSURA FINAL FORMbozYEH FINAL FORMboqTEH WITH REH FI",
     "NAL FORMbozZAIN FINAL FORMbozMEEM FINAL FORMbozNOON FINAL FORMbozALEF MAKSURA FINAL FORMbozYEH F",
     "INAL FORMborHEH WITH REH FINAL FORMbpnZAIN FINAL FORMbpnMEEM FINAL FORMbpnNOON FINAL FORMbpnALEF",
     " MAKSURA FINAL FORMbpnYEH FINAL FORMboqFEH WITH ALEF MAKSURA FINAL FORMbozYEH FINAL FORMboqQAF W",
     "ITH ALEF MAKSURA FINAL FORMbozYEH FINAL FORMboqKAF WITH ALEF FINAL FORMbozLAM FINAL FORMbozMEEM ",
     "FINAL FORMbozALEF MAKSURA FINAL FORMbozYEH FINAL FORMboqLAM WITH MEEM FINAL FORMbozALEF MAKSURA ",
     "FINAL FORMbozYEH FINAL FORMboqMEEM WITH ALEF FINAL FORMbpnMEEM FINAL FORMboqNOON WITH REH FINAL ",
     "FORMbpnZAIN FINAL FORMbpnMEEM FINAL FORMbpnNOON FINAL FORMbpnALEF MAKSURA FINAL FORMbpnYEH FINAL",
     " FORMboqALEF MAKSURA WITH SUPERSCRIPT ALEF FINAL FORMboqYEH WITH REH FINAL FORMbozZAIN FINAL FOR",
     "MbozMEEM FINAL FORMbozNOON FINAL FORMbozALEF MAKSURA FINAL FORMbozYEH FINAL FORMbozHAMZA ABOVE W",
     "ITH JEEM INITIAL FORMbqqHAH INITIAL FORMbqqKHAH INITIAL FORMbqqMEEM INITIAL FORMbqqHEH INITIAL F",
     "ORMboqBEH WITH JEEM INITIAL FORMbozHAH INITIAL FORMbozKHAH INITIAL FORMbozMEEM INITIAL FORMbozHE",
     "H INITIAL FORMboqTEH WITH JEEM INITIAL FORMbozHAH INITIAL FORMbozKHAH INITIAL FORMbozMEEM INITIA",
     "L FORMbozHEH INITIAL FORMborHEH WITH MEEM INITIAL FORMboqJEEM WITH HAH INITIAL FORMbpnMEEM INITI",
     "AL FORMboqHAH WITH JEEM INITIAL FORMbozMEEM INITIAL FORMboqKHAH WITH JEEM INITIAL FORMbpnMEEM IN",
     "ITIAL FORMboqSEEN WITH JEEM INITIAL FORMbpnHAH INITIAL FORMbpnKHAH INITIAL FORMbpnMEEM INITIAL F",
     "ORMborAD WITH HAH INITIAL FORMbozKHAH INITIAL FORMbozMEEM INITIAL FORMboqDAD WITH JEEM INITIAL F",
     "ORMbozHAH INITIAL FORMbozKHAH INITIAL FORMbozMEEM INITIAL FORMboqTAH WITH HAH INITIAL FORMboqZAH",
     " WITH MEEM INITIAL FORMboqAIN WITH JEEM INITIAL FORMbozMEEM INITIAL FORMboqGHAIN WITH JEEM INITI",
     "AL FORMbpoMEEM INITIAL FORMboqFEH WITH JEEM INITIAL FORMbozHAH INITIAL FORMbozKHAH INITIAL FORMb",
     "ozMEEM INITIAL FORMboqQAF WITH HAH INITIAL FORMbozMEEM INITIAL FORMboqKAF WITH JEEM INITIAL FORM",
     "bozHAH INITIAL FORMbozKHAH INITIAL FORMbozLAM INITIAL FORMbozMEEM INITIAL FORMboqLAM WITH JEEM I",
     "NITIAL FORMbozHAH INITIAL FORMbozKHAH INITIAL FORMbozMEEM INITIAL FORMbozHEH INITIAL FORMboqMEEM",
     " WITH JEEM INITIAL FORMbpnHAH INITIAL FORMbpnKHAH INITIAL FORMbpnMEEM INITIAL FORMboqNOON WITH J",
     "EEM INITIAL FORMbpnHAH INITIAL FORMbpnKHAH INITIAL FORMbpnMEEM INITIAL FORMbpnHEH INITIAL FORMbo",
     "qHEH WITH JEEM INITIAL FORMbozMEEM INITIAL FORMbozSUPERSCRIPT ALEF INITIAL FORMboqYEH WITH JEEM ",
     "INITIAL FORMbozHAH INITIAL FORMbozKHAH INITIAL FORMbozMEEM INITIAL FORMbozHEH INITIAL FORMbpnAMZ",
     "A ABOVE WITH MEEM MEDIAL FORMbqqHEH MEDIAL FORMboqBEH WITH MEEM MEDIAL FORMbozHEH MEDIAL FORMboq",
     "TEH WITH MEEM MEDIAL FORMbozHEH MEDIAL FORMborHEH WITH MEEM MEDIAL FORMbpnHEH MEDIAL FORMboqSEEN",
     " WITH MEEM MEDIAL FORMbpnHEH MEDIAL FORMborHEEN WITH MEEM MEDIAL FORMbpoHEH MEDIAL FORMboqKAF WI",
     "TH LAM MEDIAL FORMbozMEEM MEDIAL FORMboqLAM WITH MEEM MEDIAL FORMboqNOON WITH MEEM MEDIAL FORMbp",
     "nHEH MEDIAL FORMboqYEH WITH MEEM MEDIAL FORMbozHEH MEDIAL FORMboqSHADDA WITH FATHA MEDIAL FORMbp",
     "pDAMMA MEDIAL FORMbppKASRA MEDIAL FORMboqTAH WITH ALEF MAKSURA ISOLATED FORMbozYEH ISOLATED FORM",
     "boqAIN WITH ALEF MAKSURA ISOLATED FORMbozYEH ISOLATED FORMboqGHAIN WITH ALEF MAKSURA ISOLATED FO",
     "RMbpoYEH ISOLATED FORMboqSEEN WITH ALEF MAKSURA ISOLATED FORMbpnYEH ISOLATED FORMborHEEN WITH AL",
     "EF MAKSURA ISOLATED FORMbpoYEH ISOLATED FORMboqHAH WITH ALEF MAKSURA ISOLATED FORMbozYEH ISOLATE",
     "D FORMboqJEEM WITH ALEF MAKSURA ISOLATED FORMbpnYEH ISOLATED FORMboqKHAH WITH ALEF MAKSURA ISOLA",
     "TED FORMbpnYEH ISOLATED FORMboqSAD WITH ALEF MAKSURA ISOLATED FORMbozYEH ISOLATED FORMboqDAD WIT",
     "H ALEF MAKSURA ISOLATED FORMbozYEH ISOLATED FORMboqSHEEN WITH JEEM ISOLATED FORMbpoHAH ISOLATED ",
     "FORMbpoKHAH ISOLATED FORMbpoMEEM ISOLATED FORMbpoREH ISOLATED FORMborEEN WITH REH ISOLATED FORMb",
     "orAD WITH REH ISOLATED FORMboqDAD WITH REH ISOLATED FORMboqTAH WITH ALEF MAKSURA FINAL FORMbozYE",
     "H FINAL FORMboqAIN WITH ALEF MAKSURA FINAL FORMbozYEH FINAL FORMboqGHAIN WITH ALEF MAKSURA FINAL",
     " FORMbpoYEH FINAL FORMboqSEEN WITH ALEF MAKSURA FINAL FORMbpnYEH FINAL FORMborHEEN WITH ALEF MAK",
     "SURA FINAL FORMbpoYEH FINAL FORMboqHAH WITH ALEF MAKSURA FINAL FORMbozYEH FINAL FORMboqJEEM WITH",
     " ALEF MAKSURA FINAL FORMbpnYEH FINAL FORMboqKHAH WITH ALEF MAKSURA FINAL FORMbpnYEH FINAL FORMbo",
     "qSAD WITH ALEF MAKSURA FINAL FORMbozYEH FINAL FORMboqDAD WITH ALEF MAKSURA FINAL FORMbozYEH FINA",
     "L FORMboqSHEEN WITH JEEM FINAL FORMbpoHAH FINAL FORMbpoKHAH FINAL FORMbpoMEEM FINAL FORMbpoREH F",
     "INAL FORMborEEN WITH REH FINAL FORMborAD WITH REH FINAL FORMboqDAD WITH REH FINAL FORMboqSHEEN W",
     "ITH JEEM INITIAL FORMbpoHAH INITIAL FORMbpoKHAH INITIAL FORMbpoMEEM INITIAL FORMborEEN WITH HEH ",
     "INITIAL FORMborHEEN WITH HEH INITIAL FORMboqTAH WITH MEEM INITIAL FORMboqSEEN WITH JEEM MEDIAL F",
     "ORMbpnHAH MEDIAL FORMbpnKHAH MEDIAL FORMborHEEN WITH JEEM MEDIAL FORMbpoHAH MEDIAL FORMbpoKHAH M",
     "EDIAL FORMboqTAH WITH MEEM MEDIAL FORMboqZAH WITH MEEM MEDIAL FORMboqALEF WITH FATHATAN FINAL FO",
     "RMbpwISOLATED FORMbORNATE LEFT PARENTHESISbuRIGHT PARENTHESISbARABIC LIGATURE RAHIMAHU ALLAAHbos",
     "DI ALLAAHU ANHbptAAbptUMbpvAAbpuNNAboqSALLALLAAHU ALAYHI WA-AALIHboqALAYHI AS-SALAAMbowM AS-SALA",
     "AMboxAA AS-SALAAMbow AS-SALAATU WAS-SALAAMboqQUDDISA SIRRAHboqSALLALLAHU ALAYHI WAAALIHEE WA-SAL",
     "LAMboqALAYHAA AS-SALAAMboqTABAARAKA WA-TAAALAAboqRAHIMAHUM ALLAAHboqTEH WITH JEEM WITH MEEM INIT",
     "IAL FORMbozHAH WITH JEEM FINAL FORMbqnINITIAL FORMbpvMEEM INITIAL FORMbozKHAH WITH MEEM INITIAL ",
     "FORMbozMEEM WITH JEEM INITIAL FORMbpwHAH INITIAL FORMbpwKHAH INITIAL FORMboqJEEM WITH MEEM WITH ",
     "HAH FINAL FORMbqoINITIAL FORMboqHAH WITH MEEM WITH YEH FINAL FORMbpwALEF MAKSURA FINAL FORMboqSE",
     "EN WITH HAH WITH JEEM INITIAL FORMbpnJEEM WITH HAH INITIAL FORMbpxALEF MAKSURA FINAL FORMbpnMEEM",
     " WITH HAH FINAL FORMbqoINITIAL FORMbpxJEEM INITIAL FORMbpxMEEM FINAL FORMbqpINITIAL FORMborAD WI",
     "TH HAH WITH HAH FINAL FORMbpzINITIAL FORMbozMEEM WITH MEEM FINAL FORMborHEEN WITH HAH WITH MEEM ",
     "FINAL FORMbqpINITIAL FORMbpoJEEM WITH YEH FINAL FORMbpoMEEM WITH KHAH FINAL FORMbqqINITIAL FORMb",
     "pyMEEM FINAL FORMbqqINITIAL FORMboqDAD WITH HAH WITH ALEF MAKSURA FINAL FORMbozKHAH WITH MEEM FI",
     "NAL FORMbqoINITIAL FORMboqTAH WITH MEEM WITH HAH FINAL FORMbqnINITIAL FORMbpwMEEM INITIAL FORMbp",
     "wYEH FINAL FORMboqAIN WITH JEEM WITH MEEM FINAL FORMbozMEEM WITH MEEM FINAL FORMbqoINITIAL FORMb",
     "pwALEF MAKSURA FINAL FORMboqGHAIN WITH MEEM WITH MEEM FINAL FORMbpyYEH FINAL FORMbpyALEF MAKSURA",
     " FINAL FORMboqFEH WITH KHAH WITH MEEM FINAL FORMbqoINITIAL FORMboqQAF WITH MEEM WITH HAH FINAL F",
     "ORMbpwMEEM FINAL FORMboqLAM WITH HAH WITH MEEM FINAL FORMbpvYEH FINAL FORMbpvALEF MAKSURA FINAL ",
     "FORMbozJEEM WITH JEEM INITIAL FORMbqoFINAL FORMbozKHAH WITH MEEM FINAL FORMbqoINITIAL FORMbozMEE",
     "M WITH HAH FINAL FORMbqnINITIAL FORMboqMEEM WITH HAH WITH JEEM INITIAL FORMbpwMEEM INITIAL FORMb",
     "pwYEH FINAL FORMbpnJEEM WITH HAH INITIAL FORMbpxMEEM INITIAL FORMbpnKHAH WITH JEEM INITIAL FORMb",
     "pxMEEM INITIAL FORMdpnJEEM WITH KHAH INITIAL FORMboqHEH WITH MEEM WITH JEEM INITIAL FORMbpwMEEM ",
     "INITIAL FORMboqNOON WITH HAH WITH MEEM INITIAL FORMbpwALEF MAKSURA FINAL FORMbpnJEEM WITH MEEM F",
     "INAL FORMbqpINITIAL FORMbpxALEF MAKSURA FINAL FORMbpnMEEM WITH YEH FINAL FORMbpxALEF MAKSURA FIN",
     "AL FORMboqYEH WITH MEEM WITH MEEM FINAL FORMbqoINITIAL FORMboqBEH WITH KHAH WITH YEH FINAL FORMb",
     "oqTEH WITH JEEM WITH YEH FINAL FORMbpwALEF MAKSURA FINAL FORMbozKHAH WITH YEH FINAL FORMbpwALEF ",
     "MAKSURA FINAL FORMbozMEEM WITH YEH FINAL FORMbpwALEF MAKSURA FINAL FORMboqJEEM WITH MEEM WITH YE",
     "H FINAL FORMbpnHAH WITH ALEF MAKSURA FINAL FORMbpnMEEM WITH ALEF MAKSURA FINAL FORMboqSEEN WITH ",
     "KHAH WITH ALEF MAKSURA FINAL FORMborAD WITH HAH WITH YEH FINAL FORMborHEEN WITH HAH WITH YEH FIN",
     "AL FORMboqDAD WITH HAH WITH YEH FINAL FORMboqLAM WITH JEEM WITH YEH FINAL FORMbozMEEM WITH YEH F",
     "INAL FORMboqYEH WITH HAH WITH YEH FINAL FORMbozJEEM WITH YEH FINAL FORMbozMEEM WITH YEH FINAL FO",
     "RMboqMEEM WITH MEEM WITH YEH FINAL FORMboqQAF WITH MEEM WITH YEH FINAL FORMboqNOON WITH HAH WITH",
     " YEH FINAL FORMboqQAF WITH MEEM WITH HAH INITIAL FORMboqLAM WITH HAH WITH MEEM INITIAL FORMboqAI",
     "N WITH MEEM WITH YEH FINAL FORMboqKAF WITH MEEM WITH YEH FINAL FORMboqNOON WITH JEEM WITH HAH IN",
     "ITIAL FORMboqMEEM WITH KHAH WITH YEH FINAL FORMboqLAM WITH JEEM WITH MEEM INITIAL FORMboqKAF WIT",
     "H MEEM WITH MEEM FINAL FORMboqLAM WITH JEEM WITH MEEM FINAL FORMboqNOON WITH JEEM WITH HAH FINAL",
     " FORMboqJEEM WITH HAH WITH YEH FINAL FORMboqHAH WITH JEEM WITH YEH FINAL FORMboqMEEM WITH JEEM W",
     "ITH YEH FINAL FORMboqFEH WITH MEEM WITH YEH FINAL FORMboqBEH WITH HAH WITH YEH FINAL FORMboqKAF ",
     "WITH MEEM WITH MEEM INITIAL FORMboqAIN WITH JEEM WITH MEEM INITIAL FORMboqSAD WITH MEEM WITH MEE",
     "M INITIAL FORMborEEN WITH KHAH WITH YEH FINAL FORMboqNOON WITH JEEM WITH YEH FINAL FORMioqSALAAM",
     "UHU ALAYNAAchotLA USED AS KORANIC STOP SIGN ISOLATED FORMboqQALA USED AS KORANIC STOP SIGN ISOLA",
     "TED FORMboqALLAH ISOLATED FORMborKBAR ISOLATED FORMboqMOHAMMAD ISOLATED FORMboqSALAM ISOLATED FO",
     "RMboqRASOUL ISOLATED FORMboqALAYHE ISOLATED FORMboqWASALLAM ISOLATED FORMboqSALLA ISOLATED FORMb",
     "ovLLAHOU ALAYHE WASALLAMboqJALLAJALALOUHOUbRIAL SIGNbARABIC LIGATURE BISMILLAH AR-RAHMAN AR-RAHE",
     "EMboqSUBHAANAHU WA TAAALAAboqAZZA WA JALLbVARIATION SELECTOR-1bot2bot3bot4bot5bot6bot7bot8bot9bo",
     "t10bou1bou2bou3bou4bou5bou6bPRESENTATION FORM FOR VERTICAL COMMAbpsIDEOGRAPHIC COMMAbqrFULL STOP",
     "bpsCOLONbpsSEMICOLONbpsEXCLAMATION MARKbpsQUESTION MARKbpsLEFT WHITE LENTICULAR BRACKETbpsRIGHT ",
     "WHITE LENTICULAR BRAKCETbpsHORIZONTAL ELLIPSIShCOMBINING LIGATURE LEFT HALFbotRIGHT HALFbxDOUBLE",
     " TILDE LEFT HALFboxRIGHT HALFbxMACRON LEFT HALFborRIGHT HALFbxCONJOINING MACRONbxLIGATURE LEFT H",
     "ALF BELOWbotRIGHT HALF BELOWbxTILDE LEFT HALF BELOWboqRIGHT HALF BELOWbxMACRON LEFT HALF BELOWbo",
     "rRIGHT HALF BELOWbxCONJOINING MACRON BELOWbyYRILLIC TITLO LEFT HALFbozRIGHT HALFbPRESENTATION FO",
     "RM FOR VERTICAL TWO DOT LEADERbpsEM DASHbptN DASHbpsLOW LINEbpsWAVY LOW LINEbpsLEFT PARENTHESISb",
     "psRIGHT PARENTHESISbpsLEFT CURLY BRACKETbpsRIGHT CURLY BRACKETbpsLEFT TORTOISE SHELL BRACKETbpsR",
     "IGHT TORTOISE SHELL BRACKETbpsLEFT BLACK LENTICULAR BRACKETbpsRIGHT BLACK LENTICULAR BRACKETbpsL",
     "EFT DOUBLE ANGLE BRACKETbpsRIGHT DOUBLE ANGLE BRACKETbpsLEFT ANGLE BRACKETbpsRIGHT ANGLE BRACKET",
     "bpsLEFT CORNER BRACKETbpsRIGHT CORNER BRACKETbpsLEFT WHITE CORNER BRACKETbpsRIGHT WHITE CORNER B",
     "RACKETbSESAME DOTbWHITE SESAME DOTbPRESENTATION FORM FOR VERTICAL LEFT SQUARE BRACKETbpsRIGHT SQ",
     "UARE BRACKETbDASHED OVERLINEbCENTRELINE OVERLINEbWAVY OVERLINEbDOUBLE WAVY OVERLINEboASHED LOW L",
     "INEbCENTRELINE LOW LINEbWAVY LOW LINEbSMALL COMMAbtIDEOGRAPHIC COMMAbtFULL STOPctSEMICOLONbtCOLO",
     "NbtQUESTION MARKbtEXCLAMATION MARKbuM DASHbtLEFT PARENTHESISbtRIGHT PARENTHESISbtLEFT CURLY BRAC",
     "KETbtRIGHT CURLY BRACKETbtLEFT TORTOISE SHELL BRACKETbtRIGHT TORTOISE SHELL BRACKETbtNUMBER SIGN",
     "btAMPERSANDbuSTERISKbtPLUS SIGNbtHYPHEN-MINUSbtLESS-THAN SIGNbtGREATER-THAN SIGNbtEQUALS SIGNctR",
     "EVERSE SOLIDUSbtDOLLAR SIGNbtPERCENT SIGNbtCOMMERCIAL ATfARABIC FATHATAN ISOLATED FORMbuTATWEEL ",
     "WITH FATHATAN ABOVEbuDAMMATAN ISOLATED FORMbuTAIL FRAGMENTbuKASRATAN ISOLATED FORMcuFATHA ISOLAT",
     "ED FORMbonMEDIAL FORMbuDAMMA ISOLATED FORMbonMEDIAL FORMbuKASRA ISOLATED FORMbonMEDIAL FORMbuSHA",
     "DDA ISOLATED FORMbooMEDIAL FORMbvUKUN ISOLATED FORMbonMEDIAL FORMbuLETTER HAMZA ISOLATED FORMboo",
     "ALEF WITH MADDA ABOVE ISOLATED FORMbpxFINAL FORMboyHAMZA ABOVE ISOLATED FORMbpxFINAL FORMbooWAW ",
     "WITH HAMZA ABOVE ISOLATED FORMbpwFINAL FORMbooALEF WITH HAMZA BELOW ISOLATED FORMbpxFINAL FORMbo",
     "oYEH WITH HAMZA ABOVE ISOLATED FORMbpwFINAL FORMbpwINITIAL FORMbpwMEDIAL FORMbooALEF ISOLATED FO",
     "RMbotFINAL FORMbooBEH ISOLATED FORMbosFINAL FORMbosINITIAL FORMbosMEDIAL FORMbooTEH MARBUTA ISOL",
     "ATED FORMbpnFINAL FORMbosISOLATED FORMbosFINAL FORMbosINITIAL FORMbosMEDIAL FORMbopHEH ISOLATED ",
     "FORMbotFINAL FORMbotINITIAL FORMbotMEDIAL FORMbooJEEM ISOLATED FORMbotFINAL FORMbotINITIAL FORMb",
     "otMEDIAL FORMbooHAH ISOLATED FORMbosFINAL FORMbosINITIAL FORMbosMEDIAL FORMbooKHAH ISOLATED FORM",
     "botFINAL FORMbotINITIAL FORMbotMEDIAL FORMbooDAL ISOLATED FORMbosFINAL FORMbooTHAL ISOLATED FORM",
     "botFINAL FORMbooREH ISOLATED FORMbosFINAL FORMbooZAIN ISOLATED FORMbotFINAL FORMbooSEEN ISOLATED",
     " FORMbotFINAL FORMbotINITIAL FORMbotMEDIAL FORMbopHEEN ISOLATED FORMbouFINAL FORMbouINITIAL FORM",
     "bouMEDIAL FORMbopAD ISOLATED FORMbosFINAL FORMbosINITIAL FORMbosMEDIAL FORMbooDAD ISOLATED FORMb",
     "osFINAL FORMbosINITIAL FORMbosMEDIAL FORMbooTAH ISOLATED FORMbosFINAL FORMbosINITIAL FORMbosMEDI",
     "AL FORMbooZAH ISOLATED FORMbosFINAL FORMbosINITIAL FORMbosMEDIAL FORMbooAIN ISOLATED FORMbosFINA",
     "L FORMbosINITIAL FORMbosMEDIAL FORMbooGHAIN ISOLATED FORMbouFINAL FORMbouINITIAL FORMbouMEDIAL F",
     "ORMbooFEH ISOLATED FORMbosFINAL FORMbosINITIAL FORMbosMEDIAL FORMbooQAF ISOLATED FORMbosFINAL FO",
     "RMbosINITIAL FORMbosMEDIAL FORMbooKAF ISOLATED FORMbosFINAL FORMbosINITIAL FORMbosMEDIAL FORMboo",
     "LAM ISOLATED FORMbosFINAL FORMbosINITIAL FORMbosMEDIAL FORMbooMEEM ISOLATED FORMbotFINAL FORMbot",
     "INITIAL FORMbotMEDIAL FORMbooNOON ISOLATED FORMbotFINAL FORMbotINITIAL FORMbotMEDIAL FORMbooHEH ",
     "ISOLATED FORMbosFINAL FORMbosINITIAL FORMbosMEDIAL FORMbooWAW ISOLATED FORMbosFINAL FORMbooALEF ",
     "MAKSURA ISOLATED FORMbpoFINAL FORMbooYEH ISOLATED FORMbosFINAL FORMbosINITIAL FORMbosMEDIAL FORM",
     "bvIGATURE LAM WITH ALEF WITH MADDA ABOVE ISOLATED FORMbqvFINAL FORMbpwHAMZA ABOVE ISOLATED FORMb",
     "qvFINAL FORMbqpBELOW ISOLATED FORMbqvFINAL FORMbprISOLATED FORMbprFINAL FORMdZERO WIDTH NO-BREAK",
     " SPACEcFULLWIDTH EXCLAMATION MARKbxQUOTATION MARKbxNUMBER SIGNbxDOLLAR SIGNbxPERCENT SIGNbxAMPER",
     "SANDbyPOSTROPHEbxLEFT PARENTHESISbxRIGHT PARENTHESISbxASTERISKbxPLUS SIGNbxCOMMAbxHYPHEN-MINUSbx",
     "FULL STOPbxSOLIDUSbxDIGIT ZEROboqONEboqTWOborHREEboqFOURborIVEboqSIXborEVENboqEIGHTboqNINEbxCOLO",
     "NbxSEMICOLONbxLESS-THAN SIGNbxEQUALS SIGNbxGREATER-THAN SIGNbxQUESTION MARKbxCOMMERCIAL ATbxLATI",
     "N CAPITAL LETTER AbpsBbpsCbpsDbpsEbpsFbpsGbpsHbpsIbpsJbpsKbpsLbpsMbpsNbpsObpsPbpsQbpsRbpsSbpsTbp",
     "sUbpsVbpsWbpsXbpsYbpsZbyEFT SQUARE BRACKETbxREVERSE SOLIDUSbyIGHT SQUARE BRACKETbxCIRCUMFLEX ACC",
     "ENTbxLOW LINEbxGRAVE ACCENTbxLATIN SMALL LETTER AbpqBbpqCbpqDbpqEbpqFbpqGbpqHbpqIbpqJbpqKbpqLbpq",
     "MbpqNbpqObpqPbpqQbpqRbpqSbpqTbpqUbpqVbpqWbpqXbpqYbpqZbyEFT CURLY BRACKETbxVERTICAL LINEbxRIGHT C",
     "URLY BRACKETbxTILDEbxLEFT WHITE PARENTHESISbxRIGHT WHITE PARENTHESISbHALFWIDTH IDEOGRAPHIC FULL ",
     "STOPbxLEFT CORNER BRACKETbxRIGHT CORNER BRACKETbxIDEOGRAPHIC COMMAbxKATAKANA MIDDLE DOTbotLETTER",
     " WObpnSMALL AbptIbptUbptEbptObptYAbpuUbpuObptTUbos-HIRAGANA PROLONGED SOUND MARKbos LETTER AbpnI",
     "bpnUbpnEbpnObpnKAbpoIbpoUbpoEbpoObpnSAbpoIbpoUbpoEbpoObpnTAbpoIbpoUbpoEbpoObpnNAbpoIbpoUbpoEbpoO",
     "bpnHAbpoIbpoUbpoEbpoObpnMAbpoIbpoUbpoEbpoObpnYAbpoUbpoObpnRAbpoIbpoUbpoEbpoObpnWAbpnNbotVOICED S",
     "OUND MARKbotSEMI-VOICED SOUND MARKbxHANGUL FILLERborLETTER KIYEOKboySSANGKIYEOKboyKIYEOK-SIOSboy",
     "NIEUNbpq-CIEUCbprHIEUHboyTIKEUTboySSANGTIKEUTboyRIEULbpq-KIYEOKbprMIEUMbprPIEUPbprSIOSbprTHIEUTH",
     "bprPHIEUPHbprHIEUHboyMIEUMboyPIEUPboySSANGPIEUPboyPIEUP-SIOSboySIOSbozSANGSIOSboyIEUNGboyCIEUCbo",
     "ySSANGCIEUCboyCHIEUCHboyKHIEUKHboyTHIEUTHboyPHIEUPHboyHIEUHeoyAbozEboyYAbpnEboyEObozdoyYEObpnboy",
     "OboyWAbpnEboyOEdoyYOboyUboyWEObpnbozIboyYUdoyEUboyYIboyIeFULLWIDTH CENT SIGNbxPOUND SIGNbxNOT SI",
     "GNbxMACRONbxBROKEN BARbxYEN SIGNbxWON SIGNcHALFWIDTH FORMS LIGHT VERTICALbxLEFTWARDS ARROWbxUPWA",
     "RDS ARROWbxRIGHTWARDS ARROWbxDOWNWARDS ARROWbxBLACK SQUAREbxWHITE CIRCLElINTERLINEAR ANNOTATION ",
     "ANCHORboxSEPARATORboxTERMINATORbOBJECT REPLACEMENT CHARACTERbREPLACEMENT CHARACTERdLINEAR B SYLL",
     "ABLE B008 Abou38 Ebou28 Ibou61 Obou10 Ubou01 DAbou45 DEbou07 DIbou14 DObou51 DUbov7 JAbou46 JEco",
     "u36 JObou65 JUbou77 KAbou44 KEbou67 KIbou70 KObou81 KUbov0 MAbou13 MEbou73 MIbou15 MObou23 MUbou",
     "06 NAbou24 NEbou30 NIbou52 NObov5 NUbou03 PAbou72 PEbou39 PIbou11 PObou50 PUbou16 QAbou78 QEbou2",
     "1 QIbou32 QOcou60 RAbou27 REbou53 RIbou02 RObou26 RUbou31 SAbou09 SEbou41 SIbou12 SObou58 SUbov9",
     " TAbou04 TEbou37 TIbou05 TObou69 TUbou54 WAbou75 WEbou40 WIbov2 WOcou17 ZAbou74 ZEcou20 ZObov5 A",
     "2bou43 A3bou85 AUbou71 DWEbou90 DWObou48 NWAbou29 PU2bou62 PTEbou76 RA2bou33 RA3bou68 RO2bov6 TA",
     "2bou87 TWEbou91 TWOdyMBOL B018bot9bos22bos34bos47bot9bos56bos63bot4bos79bos82bot3bot6bot9cjwIDEO",
     "GRAM B100 MANbov2 WOMANbov4 DEERbov5 EQUIDbowF MAREbowM STALLIONbov6F EWEbowM RAMbov7F SHE-GOATb",
     "owM HE-GOATbov8F SOWbowM BOARbov9F COWbowM BULLbou20 WHEATbov1 BARLEYbov2 OLIVEbov3 SPICEbov5 CY",
     "PERUSbwMONOGRAM B127 KAPObov8 KANAKObwIDEOGRAM B130 OILbov1 WINEbov2bwMONOGRAM B133 AREPAbov5 ME",
     "RIbwIDEOGRAM B140 BRONZEbov1 GOLDbov2bov5 WOOLbov6bou50bov1 HORNbov2bov3bov4bwMONOGRAM B156 TURO",
     "2bwIDEOGRAM B157bov8bov9 CLOTHbou60bov1bov2 GARMENTbov3 ARMOURbov4bov5bov6bov7bov8bov9bou70bov1b",
     "ov2bov3 MONTHbov4bov6 TREEbov7bov8bov9bou80bov1bov2bov3bov4bov5bov9bou90bov1 HELMETbot220 FOOTST",
     "OOLbov5 BATHTUBbou30 SPEARbov1 ARROWbov2bov3 SWORDbov4bov6bou40 WHEELED CHARIOTbov1 CHARIOTbov2 ",
     "CHARIOT FRAMEbov3 WHEELbov5bov6bwMONOGRAM B247 DIPTEbwIDEOGRAM B248bov9bou51bov2bov3bov4 DARTbov",
     "5bov6bov7bov8bov9bosVESSEL B155bpn200bpp1bpp2bpp3bpp4bpp5bpp6bpp7bpp8bpp9bpo10bpp1bpp2bpp3bpp4bp",
     "p5bpp6bpp7bpp8bpp9bpo21bpp2bpp6bpp7bpp8bpp9bpo50bpn305gAEGEAN WORD SEPARATOR LINEbowDOTbuCHECK M",
     "ARKfuNUMBER ONEbooTWObopHREEbooFOURbopIVEbooSIXbopEVENbooEIGHTbooNINEbooTENbopWENTYbopHIRTYbooFO",
     "RTYbopIFTYbooSIXTYbopEVENTYbooEIGHTYbooNINETYbooONE HUNDREDbooTWO HUNDREDbopHREE HUNDREDbooFOUR ",
     "HUNDREDbopIVE HUNDREDbooSIX HUNDREDbopEVEN HUNDREDbooEIGHT HUNDREDbooNINE HUNDREDbooONE THOUSAND",
     "booTWO THOUSANDbopHREE THOUSANDbooFOUR THOUSANDbopIVE THOUSANDbooSIX THOUSANDbopEVEN THOUSANDboo",
     "EIGHT THOUSANDbooNINE THOUSANDbooTEN THOUSANDbopWENTY THOUSANDbopHIRTY THOUSANDbooFORTY THOUSAND",
     "bopIFTY THOUSANDbooSIXTY THOUSANDbopEVENTY THOUSANDbooEIGHTY THOUSANDbooNINETY THOUSANDeuWEIGHT ",
     "BASE UNITbooFIRST SUBUNITbooSECOND SUBUNITbooTHIRD SUBUNITbooFOURTH SUBUNITbuDRY MEASURE FIRST S",
     "UBUNITbuLIQUID MEASURE FIRST SUBUNITbuMEASURE SECOND SUBUNITbopTHIRD SUBUNITbGREEK ACROPHONIC AT",
     "TIC ONE QUARTERbpoHALFbpoDRACHMAboxFIVEbozFTYbozVE HUNDREDbppTHOUSANDbozFTY THOUSANDbozVE TALENT",
     "SboxTEN TALENTSboxFIFTY TALENTSboxONE HUNDRED TALENTSboxFIVE HUNDRED TALENTSboxONE THOUSAND TALE",
     "NTSboxFIVE THOUSAND TALENTSbppSTATERSboxTEN STATERSboxFIFTY STATERSboxONE HUNDRED STATERSboxFIVE",
     " HUNDRED STATERSboxONE THOUSAND STATERSboxTEN THOUSAND STATERSboxFIFTY THOUSAND STATERSboxTEN MN",
     "ASborHERAEUM ONE PLETHRONborTHESPIAN ONEborHERMIONIAN ONEborEPIDAUREAN TWOborTHESPIAN TWOborCYRE",
     "NAIC TWO DRACHMASborEPIDAUREAN TWO DRACHMASborTROEZENIAN FIVEbppTENbps ALTERNATE FORMborHERMIONI",
     "AN TENborMESSENIAN TENborTHESPIAN TENbpoHIRTYbosROEZENIAN FIFTYbpu ALTERNATE FORMborHERMIONIAN F",
     "IFTYborTHESPIAN FIFTYbpnONE HUNDREDbpnTHREE HUNDREDborEPIDAUREAN FIVE HUNDREDborTROEZENIAN FIVE ",
     "HUNDREDbosHESPIAN FIVE HUNDREDborCARYSTIAN FIVE HUNDREDborNAXIAN FIVE HUNDREDborTHESPIAN ONE THO",
     "USANDbpnFIVE THOUSANDborDELPHIC FIVE MNASborSTRATIAN FIFTY MNASbtONE HALF SIGNbot ALTERNATE FORM",
     "btTWO THIRDS SIGNbuHREE QUARTERS SIGNbtYEAR SIGNbtTALENT SIGNbtDRACHMA SIGNbtOBOL SIGNbtTWO OBOL",
     "S SIGNbuHREE OBOLS SIGNbtFOUR OBOLS SIGNbuIVE OBOLS SIGNbtMETRETES SIGNbtKYATHOS BASE SIGNbtLITR",
     "A SIGNbtOUNKIA SIGNbtXESTES SIGNbtARTABE SIGNbvOURA SIGNbtGRAMMA SIGNbtTRYBLION BASE SIGNbtZERO ",
     "SIGNbtONE QUARTER SIGNbtSINUSOID SIGNbtINDICTION SIGNbNOMISMA SIGNcROMAN SEXTANS SIGNbtUNCIA SIG",
     "NbtSEMUNCIA SIGNbvXTULA SIGNbtDIMIDIA SEXTULA SIGNbtSILIQUA SIGNbtDENARIUS SIGNbtQUINARIUS SIGNb",
     "tSESTERTIUS SIGNbtDUPONDIUS SIGNbtAS SIGNbtCENTURIAL SIGNbASCIA SYMBOLeGREEK SYMBOL TAU RHOdjPHA",
     "ISTOS DISC SIGN PEDESTRIANbouLUMED HEADbotTATTOOED HEADbotCAPTIVEbouHILDbotWOMANbotHELMETbotGAUN",
     "TLETbotTIARAbotARROWbotBOWbotSHIELDbotCLUBbotMANACLESbovTTOCKbotSAWbotLIDbotBOOMERANGbotCARPENTR",
     "Y PLANEbotDOLIUMbotCOMBbotSLINGbotCOLUMNbotBEEHIVEbotSHIPbotHORNbouIDEbotBULLS LEGbotCATbotRAMbo",
     "tEAGLEbotDOVEbotTUNNYbotBEEbotPLANE TREEbotVINEbotPAPYRUSbotROSETTEbotLILYbotOX BACKbotFLUTEbotG",
     "RATERbotSTRAINERbouMALL AXEbotWAVY BANDbotCOMBINING OBLIQUE STROKEkbLYCIAN LETTER AbooEbooBbopHb",
     "ooGbooDbooIbooWbooZbooTHbooJbooKbooQbooLbooMbooNbooMMbooNNbooUbooPbooKKbooRbooSbooTbopTbooANbooE",
     "NbooHbooXeCARIAN LETTER AbooP2booDbooLbooUUUbooRbooLDbooA2booQbooBbooMbooObooD2booTbooSHboq2bopb",
     "ooC-18booUbooNNbooXbooNbooTT2booPbooSSbooIbooEbooUUUUbooKbop2booNDbooUUbooGbop2booSTboq2booNGboo",
     "IIbooC-39booTTbooUUU2booRRbooMBboq2boq3boq4booLD2booE2booUUU3bdoOPTIC EPACT THOUSANDS MARKbonDIG",
     "IT ONEbotTWObouHREEbotFOURbouIVEbotSIXbouEVENbotEIGHTbotNINEbonNUMBER TENbovWENTYbovHIRTYbouFORT",
     "YbovIFTYbouSIXTYbovEVENTYbouEIGHTYbouNINETYbouONE HUNDREDbouTWO HUNDREDbovHREE HUNDREDbouFOUR HU",
     "NDREDbovIVE HUNDREDbouSIX HUNDREDbovEVEN HUNDREDbouEIGHT HUNDREDbouNINE HUNDREDfOLD ITALIC LETTE",
     "R AbosBEbosKEbosDEbosEbosVEbosZEbosHEbosTHEbosIbosKAbosELbotMbotNbotSHbosObosPEbosSHEbosKUbosERb",
     "otSbosTEbosUbosEKSbosPHEbosKHEbosEFbotRSbosCHEbosIIbosUUbosESSbyNUMERAL ONEbotFIVEbotTENbotFIFTY",
     "kyLETTER YEbosNORTHERN TSEbosSOUTHERN TSEbGOTHIC LETTER AHSAbooBAIRKANbooGIBAbooDAGSbooAIHVUSboo",
     "QAIRTHRAbooIUJAbooHAGLbooTHIUTHbooEISbooKUSMAbooLAGUSbooMANNAbooNAUTHSbooJERbooURUSbooPAIRTHRAbo",
     "oNINETYbooRAIDAbooSAUILbooTEIWSbooWINJAbooFAIHUbooIGGWSbooHWAIRbooOTHALbooNINE HUNDREDgOLD PERMI",
     "C LETTER ANbosBURbosGAIbosDOIbosEbosZHOIbosDZHOIbosZATAbosDZITAbosIbosKOKEbosLEIbosMENOEbosNENOE",
     "bosVOOIbosPEEIbosREIbosSIIbosTAIbosUbosCHERYbosSHOOIbouCHOOIbosYRYbotERUbosObotObosEFbosHAbosTSI",
     "UbosVERbosYERbovIbotATbosIEbosYUbotAbosIAbCOMBINING OLD PERMIC LETTER ANbppDOIbppZATAbppNENOEbpp",
     "SIIgUGARITIC LETTER ALPAboqBETAboqGAMLAboqKHAboqDELTAboqHOboqWOboqZETAboqHOTAboqTETboqYODboqKAFb",
     "oqSHINboqLAMDAboqMEMboqDHALboqNUNboqZUboqSAMKAboqAINboqPUboqSADEboqQOPAboqRASHAboqTHANNAboqGHAIN",
     "boqTOboqIboqUboqSSUcwWORD DIVIDERbOLD PERSIAN SIGN AborIborUborKAbosUborGAbosUborXAborCAborJAbos",
     "IborTAbosUborDAbosIbosUborTHAborPAborBAborFAborNAbosUborMAbosIbosUborYAborVAbosIborRAbosUborLAbo",
     "rSAborZAborSHAbosSAborHAforAURAMAZDAAbpo-2bpoHAborXSHAAYATHIYAborDAHYAAUSHbpn-2borBAGAbosUUMISHb",
     "zWORD DIVIDERbzNUMBER ONEbotTWObouENbouWENTYbotHUNDREDdeDESERET CAPITAL LETTER LONG IbppEbppAbpq",
     "HbppObpqOboxSHORT IbpqEbpqAbprHbpqObprOboxAYboxOWboxWUboxYEEboxHboxPEEboxBEEboxTEEboxDEEboxCHEEb",
     "oxJEEboxKAYboxGAYboxEFboxVEEboxETHboxTHEEboxESboxZEEboxESHboxZHEEboxERboyLboyMboyNbozGboxOIboxEW",
     "bvSMALL LETTER LONG IbpnEbpnAbpoHbpnObpoObovSHORT IbpoEbpoAbppHbpoObppObovAYbovOWbovWUbovYEEbovH",
     "bovPEEbovBEEbovTEEbovDEEbovCHEEbovJEEbovKAYbovGAYbovEFbovVEEbovETHbovTHEEbovESbovZEEbovESHbovZHE",
     "EbovERbowLbowMbowNboxGbovOIbovEWbSHAVIAN LETTER PEEPbopTOTbopKICKbopFEEbopTHIGHbopSOboqUREbopCHU",
     "RCHbopYEAbopHUNGbopBIBbopDEADbopGAGbopVOWbopTHEYbopZOObopMEASUREbopJUDGEbopWOEbopHA-HAbopLOLLbop",
     "MIMEbopIFbopEGGbopASHboqDObopONbopWOOLbopOUTbopAHbopROARbopNUNbopEATbopAGEbopICEbopUPbopOAKboqOZ",
     "EboqILbopAWEboqREbopORbopAIRbopERRbopARRAYbopEARbopIANbopYEWbOSMANYA LETTER ALEFbopBAbopTAbopJAb",
     "opXAbopKHAbopDEELbopRAbopSAboqHIINbopDHAbopCAYNbopGAbopFAbopQAAFbopKAAFbopLAANbopMIINbopNUUNbopW",
     "AWbopHAbopYAbopAbopEbopIbopObopUbopAAbopEEbopOOdvDIGIT ZERObooONEbooTWObopHREEbooFOURbopIVEbooSI",
     "XbopEVENbooEIGHTbooNINEhpAGE CAPITAL LETTER AbowIboxNbowHbovBRAbovCHAbovEHCHAbowbowINbovHAbowYAb",
     "ovIbovKAbovEHKAbovKYAbovLAbovMAbovNAbovObowINbovPAbovEHPAbovSAbowHAbovTAbovEHTAbovTSAbovEHTSAbov",
     "TSHAbovDHAbovUbovWAbovKHAbovGHAbovZAbowHAftSMALL LETTER AbouIbovNbouHbotBRAbotCHAbotEHCHAboubouI",
     "NbotHAbouYAbotIbotKAbotEHKAbotKYAbotLAbotMAbotNAbotObouINbotPAbotEHPAbotSAbouHAbotTAbotEHTAbotTS",
     "AbotEHTSAbotTSHAbotDHAbotUbotWAbotKHAbotGHAbotZAbouHAfELBASAN LETTER AbopBEbopCEboqHEbopDEbopNDE",
     "bopDHEbopEIboqbopFEbopGEboqJEbopHEbopIbopJEbopKEbopLEboqLEbopMEbopNEboqAboqJEbopObopPEbopQEbopRE",
     "boqREbopSEboqHEbopTEboqHEbopUbopVEbopXEbopYbopZEboqHEbopGHEborAMMAbopKHEjCAUCASIAN ALBANIAN LETT",
     "ER ALTbpnBETbpnGIMbpnDATbpnEBbpnZARLbpnEYNbpnZHILbpnTASbpnCHAbpnYOWDbpnZHAbpnIRBbpnSHAbpnLANbpnI",
     "NYAbpnXEYNbpnDYANbpnCARbpnJHOXbpnKARbpnLYITbpnHEYTbpnQAYbpnAORbpnCHOYbppIbpoYAYbpnMAQbpnQARbpnNO",
     "WCbpnDZYAYbpnSHAKbpnJAYNbpnONbpnTYAYbpnFAMbpnDZAYbpnCHATbpnPENbpnGHEYSbpnRATbpnSEYKbpnVEYZbpnTIW",
     "RbpnSHOYbpnIWNbpnCYAWbpoAYNbpnYAYDbpnPIWRbpnKIWmotCITATION MARKbVITHKUQI CAPITAL LETTER AboyBBEb",
     "ozEboyCEbozHEboyDEbozHEboyEIbozboyFEboyGAcoyHAbozHAboyIbozJEboyJEboyKAboyLAbozLAboyMEboyNEbozJEb",
     "oyOboyPEboyQAboyREcoySEbozHEboyTEbozHEboyUboyVEboyXEcoyYboyZEcwSMALL LETTER AbowBBEboxEbowCEboxH",
     "EbowDEboxHEbowEIboxbowFEbowGAcowHAboxHAbowIboxJEbowJEbowKAbowLAboxLAbowMEbowNEboxJEbowObowPEbowQ",
     "AbowREcowSEboxHEbowTEboxHEbowUbowVEbowXEcowYbowZEfdLINEAR A SIGN AB001bos2bos3bos4bos5bos6bos7bo",
     "s8bos9bor10bos1bos3bos6bos7bor20bos1botFbotMbos2botFbotMbos3botMbos4bos6bos7bos8bop028BbopB029bo",
     "r30bos1bos4bos7bos8bos9bor40bos1bos4bos5bos6bos7bos8bos9bor50bos1bos3bos4bos5bos6bos7bos8bos9bor",
     "60bos1bos5bos6bos7bos9bor70bos3bos4bos6bos7bos8bos9bor80bos1bos2bos5bos6bos7bop100-102bopB118bor",
     "20bop120BbopB122bos3bor31AbotBbop131CbopB164bor71bor80bos8bor91bop301bor2bor3bor4bor5bor6bor7bor",
     "8bor9AbosBbosCboq10bor1bor2bor3AbosBbosCbor4bor5bor6bor7bor8bor9boq20bor1bor2bor3bor4bor5bor6bor",
     "7bor8bor9boq30bor1bor2bor3bor4bor5bor6bor7bor8bor9boq40bor1bor2bor3bor4bor5bor6bor7bor8bor9boq50",
     "bor1bor2bor3bor4bor5bor6bor7bor8bor9boq60bor1bor2bor3bor4bor5bor6bor7bor8bor9boq70bor1bop400-VAS",
     "bor1-VASbor2-VASbor3-VASbor4-VASbor5-VASbor6-VASbor7-VASbor8-VASbor9-VASboq10-VASbor1-VASbor2-VA",
     "Sbor3-VASbor4-VASbor5-VASbor6-VASbor7-VASbor8-VASbop501bor2bor3bor4bor5bor6bor8bor9boq10bor1bor2",
     "bor3bor5bor6boq20bor1bor3bor4bor5bor6bor7bor8bor9boq30bor1bor2bor4bor5bor6bor7bor8bor9boq40bor1b",
     "or2bor5bor7bor8bor9boq50bor1bor2bor3bor4bor5bor6bor7bor9boq63bor4bor5bor6bor8bor9boq70bor1bor2bo",
     "r3bor4bor5bor6bor7bor8bor9boq80bor1bor2bor3bor4bor5bor6bor7bor8bor9boq91bor2bor4bor5bor6bor8bop6",
     "00bor1bor2bor3bor4bor6bor8bor9boq10bor1bor2bor3bor4bor5bor6bor7bor8bor9boq20bor1bor2bor3bor4bor6",
     "bor7bor8bor9boq34bor7bor8boq40bor2bor3bor4bor5bor6bor8bor9boq51bor2bor3bor4bor5bor6bor7bor8bor9b",
     "oq60bor1bor2bor3bor4kop701 Abor2 Bbor3 Dbor4 Ebor5 Fbor6 Hbor7 Jbor8 Kbor9 Lbos-2 L2bot3 L3bot4 ",
     "L4bot6 L6boq10 Wbor1 Xbor2 Ybor3 OMEGAbor4 ABBbor5 BBbor7 DDboq26 EYYYboq32 JElop800bor1bor2bor3",
     "bor4bor5bor6bor7bmMODIFIER LETTER SMALL CAPITAL AAborUPERSCRIPT TRIANGULAR COLONbppHALF TRIANGUL",
     "AR COLONborMALL AEbowCAPITAL BbowB WITH HOOKcowDZ DIGRAPHbpt WITH RETROFLEX HOOKbpzCURLboxEZH DI",
     "GRAPHbox WITH TAILbpqHOOKbpu AND TAILbowREVERSED EbowCLOSED REVERSED OPEN EbowFENG DIGRAPHbowRAM",
     "S HORNbowCAPITAL GbowG WITH HOOKbowCAPITAL G WITH HOOKbowH WITH STROKEbowCAPITAL HbowHENG WITH H",
     "OOKbowDOTLESS J WITH STROKE AND HOOKbowLS DIGRAPHboxZ DIGRAPHbox WITH BELTbowCAPITAL L WITH BELT",
     "bowL WITH RETROFLEX HOOK AND BELTboxEZHbpn WITH RETROFLEX HOOKbowTURNED Ybpr WITH BELTbowO WITH ",
     "STROKEbowCAPITAL OEboxLOSED OMEGAbowQbowTURNED R WITH LONG LEGbqs AND RETROFLEX HOOKbowR WITH TA",
     "ILbpqFISHHOOKbowCAPITAL RbowTC DIGRAPH WITH CURLboxS DIGRAPHbpt WITH RETROFLEX HOOKboxESH DIGRAP",
     "Hbox WITH RETROFLEX HOOKbowV WITH RIGHT HOOKcowCAPITAL YboqGLOTTAL STOP WITH STROKEboqREVERSED G",
     "LOTTAL STOP WITH STROKEboqBILABIAL CLICKboqDENTAL CLICKboqLATERAL CLICKboqALVEOLAR CLICKboqRETRO",
     "FLEX CLICK WITH RETROFLEX HOOKboqSMALL S WITH CURLffCYPRIOT SYLLABLE AborEborIborOborUborJAdosOc",
     "orKAbosEbosIbosObosUborLAbosEbosIbosObosUborMAbosEbosIbosObosUborNAbosEbosIbosObosUborPAbosEbosI"]

def characterNameRecordsPart9 : String :=
  String.join
    ["bosObosUborRAbosEbosIbosObosUborSAbosEbosIbosObosUborTAbosEbosIbosObosUborWAbosEbosIbosOcorXAbos",
     "EeorZAdosObIMPERIAL ARAMAIC LETTER ALEPHboyBETHboyGIMELboyDALETHboyHEboyWAWboyZAYINboyHETHboyTET",
     "HboyYODHboyKAPHboyLAMEDHboyMEMboyNUNboySAMEKHboyAYINboyPEboySADHEboyQOPHboyRESHboySHINboyTAWcorS",
     "ECTION SIGNborNUMBER ONEboyTWObozHREEbozENbozWENTYboyONE HUNDREDbppTHOUSANDboyTEN THOUSANDbPALMY",
     "RENE LETTER ALEPHborBETHborGIMELborDALETHborHEborWAWborZAYINborHETHborTETHborYODHborKAPHborLAMED",
     "HborMEMborFINAL NUNborNUNborSAMEKHborAYINborPEborSADHEborQOPHborRESHborSHINborTAWbzFT-POINTING F",
     "LEURONbxRIGHT-POINTING FLEURONbxNUMBER ONEborTWObosHREEborFOURbosIVEborTENbosWENTYbNABATAEAN LET",
     "TER FINAL ALEPHborALEPHborFINAL BETHborBETHborGIMELborDALETHborFINAL HEborHEborWAWborZAYINborHET",
     "HborTETHborFINAL YODHborYODHborFINAL KAPHborKAPHborFINAL LAMEDHborLAMEDHborFINAL MEMborMEMborFIN",
     "AL NUNborNUNborSAMEKHborAYINborPEborSADHEborQOPHborRESHborFINAL SHINborSHINborTAWjxNUMBER ONEbor",
     "TWObosHREEborFOURbxCRUCIFORM NUMBER FOURbxNUMBER FIVEborTENbosWENTYborONE HUNDREDdkHATRAN LETTER",
     " ALEPHbooBETHbooGIMELbooDALETH-RESHbooHEbooWAWbooZAYNbooHETHbooTETHbooYODHbooKAPHbooLAMEDHbooMEM",
     "booNUNbooSAMEKHbooAYNbooPEbooSADHEbooQOPHcooSHINbooTAWguNUMBER ONEbooFIVEbooTENbopWENTYbooONE HU",
     "NDREDbPHOENICIAN LETTER ALFbosBETbosGAMLbosDELTbosHEbosWAUbosZAIbosHETbosTETbosYODbosKAFbosLAMDb",
     "osMEMbosNUNbosSEMKbosAINbosPEbosSADEbosQOFbosROSHbosSHINbosTAUbyNUMBER ONEbosTENbotWENTYbosONE H",
     "UNDREDbosTWObotHREEeyWORD SEPARATORbLYDIAN LETTER AbooBbooGbooDbooEbooVbooIbooYbooKbooLbooMbooNb",
     "ooObooRbooSSbooTbooUbooFbooQbooSbooTTbooANbooENbooLYbooNNbooCguTRIANGULAR MARKfaMEROITIC HIEROGL",
     "YPHIC LETTER AbpqEbpqIbpqObpqYAbpqWAbpqBAbps-2bpqPAbpqMAbpqNAbps-2bprEbps-2bpqRAbps-2bpqLAbpqKHA",
     "bpqHHAbpqSAbps-2bprEbpqKAbpqQAbpqTAbps-2bprEbps-2bprObpqDAbowSYMBOL VIDJbpu-2bwCURSIVE LETTER Ab",
     "oyEboyIboyOboyYAboyWAboyBAboyPAboyMAboyNAbozEboyRAboyLAboyKHAboyHHAboySAboyARCHAIC SAboySEboyKAb",
     "oyQAboyTAbozEbozOboyDAforFRACTION ELEVEN TWELFTHSbpnONE HALFborLOGOGRAM RMTbpnIMNborNUMBER ONEbo",
     "yTWObozHREEboyFOURbozIVEboySIXbozEVENboyEIGHTboyNINEboyTENbozWENTYbozHIRTYboyFORTYbozIFTYboySIXT",
     "YbozEVENTYdoyONE HUNDREDboyTWO HUNDREDbozHREE HUNDREDboyFOUR HUNDREDbozIVE HUNDREDboySIX HUNDRED",
     "bozEVEN HUNDREDboyEIGHT HUNDREDboyNINE HUNDREDboyONE THOUSANDboyTWO THOUSANDbozHREE THOUSANDboyF",
     "OUR THOUSANDbozIVE THOUSANDboySIX THOUSANDbozEVEN THOUSANDboyEIGHT THOUSANDboyNINE THOUSANDboyTE",
     "N THOUSANDbozWENTY THOUSANDbozHIRTY THOUSANDboyFORTY THOUSANDbozIFTY THOUSANDboySIXTY THOUSANDbo",
     "zEVENTY THOUSANDboyEIGHTY THOUSANDboyNINETY THOUSANDboyONE HUNDRED THOUSANDboyTWO HUNDRED THOUSA",
     "NDbozHREE HUNDRED THOUSANDboyFOUR HUNDRED THOUSANDbozIVE HUNDRED THOUSANDboySIX HUNDRED THOUSAND",
     "bozEVEN HUNDRED THOUSANDboyEIGHT HUNDRED THOUSANDboyNINE HUNDRED THOUSANDborFRACTION ONE TWELFTH",
     "bpnTWO TWELFTHSbpoHREE TWELFTHSbpnFOUR TWELFTHSbpoIVE TWELFTHSbpnSIX TWELFTHSbpoEVEN TWELFTHSbpn",
     "EIGHT TWELFTHSbpnNINE TWELFTHSbpnTEN TWELFTHSbKHAROSHTHI LETTER AbyVOWEL SIGN IbowUbowVOCALIC Rc",
     "owEbowOgorLENGTH MARKbySIGN DOUBLE RING BELOWboqANUSVARAboqVISARGAbyLETTER KAbotHAbosGAbotHAcosC",
     "AbotHAbosJAcosNYAbosTTAbouHAbosDDAbouHAbosNNAbosTAbotHAbosDAbotHAbosNAbosPAbotHAbosBAbotHAbosMAb",
     "osYAbosRAbosLAbosVAbosSHAbotSAbotAbosZAbosHAbosKKAbosTTTHAbovAbosVHAdySIGN BAR ABOVEboqCAUDAboqD",
     "OT BELOWfyVIRAMAbyDIGIT ONEborTWObosHREEborFOURbyNUMBER TENbotWENTYbosONE HUNDREDbowTHOUSANDbyFR",
     "ACTION ONE HALFiyPUNCTUATION DOTboxSMALL CIRCLEboxCIRCLEboyRESCENT BARboxMANGALAMboxLOTUSboxDAND",
     "AboyOUBLE DANDAboxLINESiOLD SOUTH ARABIAN LETTER HEbozLAMEDHbozHETHbozMEMbozQOPHbozWAWbozSHINboz",
     "RESHbozBETHbozTAWbozSATbozKAPHbozNUNbozKHETHbozSADHEbpoMEKHbozFEbozALEFbpnYNbozDHADHEbozGIMELboz",
     "DALETHbozGHAYNbozTETHbozZAYNbozDHALETHbozYODHbozTHAWbpoETHbosNUMBER ONEbozFIFTYbovERIC INDICATOR",
     "brNORTH ARABIAN LETTER HEHbozLAMbozHAHbozMEEMbozQAFbozWAWbozES-2bozREHbozBEHbozTEHbozES-1bozKAFb",
     "ozNOONbozKHAHbozSADbozES-3bozFEHbozALEFbpnINbozDADbozGEEMbozDALbozGHAINbozTAHbozZAINbozTHALbozYE",
     "HbozTHEHbozZAHbosNUMBER ONEbozTENbpnWENTYchMANICHAEAN LETTER ALEPHbosBETHbotHETHbosGIMELbotHIMEL",
     "bosDALETHbosHEbosWAWbySIGN UDbyLETTER ZAYINbotHAYINbosJAYINbotHAYINbosHETHbosTETHbosYODHbosKAPHb",
     "osXAPHbosKHAPHbosLAMEDHbosDHAMEDHbosTHAMEDHbosMEMbosNUNbosSAMEKHbosAYINbotAYINbosPEbosFEbosSADHE",
     "bosQOPHbosXOPHbosQHOPHbosRESHbosSHINbotSHINbosTAWbyABBREVIATION MARK ABOVEbpqBELOWfyNUMBER ONEbo",
     "sFIVEbosTENbotWENTYbosONE HUNDREDbyPUNCTUATION STARboxFLEURONboxDOUBLE DOT WITHIN DOTbozT WITHIN",
     " DOTbpnboxTWO DOTSboxLINE FILLERkAVESTAN LETTER AboqAboqOboqAOboqNboqANboqEborEbopEboqEbopOboqOb",
     "opIboqIbopUboqUbopKEbopXEboqYEboqVEbopGEboqGEboqHEbopCEbopJEbopTEboqHEbopDEboqHEbopTTEbopPEbopFE",
     "bopBEboqHEbopNGEborYEborVEboqEboqYEboqNEbopMEbopHMEbopYYEboqEbopVEbopREbopLEbopSEbopZEbopSHEbopZ",
     "HEbopSHYEboqSHEbopHEevABBREVIATION MARKbTINY TWO DOTS OVER ONE DOT PUNCTUATIONbSMALL TWO DOTS OV",
     "ER ONE DOT PUNCTUATIONbLARGE TWO DOTS OVER ONE DOT PUNCTUATIONbtONE DOT OVER TWO DOTS PUNCTUATIO",
     "NbtTWO RINGS OVER ONE RING PUNCTUATIONbtONE RING OVER TWO RINGS PUNCTUATIONbINSCRIPTIONAL PARTHI",
     "AN LETTER ALEPHbprBETHbprGIMELbprDALETHbprHEbprWAWbprZAYINbprHETHbprTETHbprYODHbprKAPHbprLAMEDHb",
     "prMEMbprNUNbprSAMEKHbprAYINbprPEbprSADHEbprQOPHbprRESHbprSHINbprTAWdoxNUMBER ONEbprTWObpsHREEbpr",
     "FOURbprTENbpsWENTYbprONE HUNDREDbpvTHOUSANDboqHLAVI LETTER ALEPHbpqBETHbpqGIMELbpqDALETHbpqHEbpq",
     "WAW-AYIN-RESHbpqZAYINbpqHETHbpqTETHbpqYODHbpqKAPHbpqLAMEDHbpqMEM-QOPHbpqNUNbpqSAMEKHbpqPEbpqSADH",
     "EbprHINbpqTAWgowNUMBER ONEbpqTWObprHREEbpqFOURbpqTENbprWENTYbpqONE HUNDREDbpuTHOUSANDbPSALTER PA",
     "HLAVI LETTER ALEPHboxBETHboxGIMELboxDALETHboxHEboxWAW-AYIN-RESHboxZAYINboxHETHboxYODHboxKAPHboxL",
     "AMEDHboxMEM-QOPHboxNUNboxSAMEKHboxPEboxSADHEboyHINboxTAWioqSECTION MARKboqTURNED SECTION MARKboq",
     "FOUR DOTS WITH CROSSbpsDOTbaoqNUMBER ONEboxTWOboyHREEboxFOURboxTENboyWENTYboxONE HUNDREDgdOLD TU",
     "RKIC LETTER ORKHON AbosYENISEI AbpoEbosORKHON IbosYENISEI IbpnEbosORKHON ObpnEbosYENISEI OEbosOR",
     "KHON ABbosYENISEI ABbosORKHON AEBbosYENISEI AEBbosORKHON AGbosYENISEI AGbosORKHON AEGbosYENISEI ",
     "AEGbosORKHON ADbosYENISEI ADbosORKHON AEDbozEZbosYENISEI EZbosORKHON AYbosYENISEI AYbosORKHON AE",
     "YbosYENISEI AEYbosORKHON AEKbosYENISEI AEKbosORKHON OEKbosYENISEI OEKbosORKHON ALbosYENISEI ALbo",
     "sORKHON AELbozELTbpnMbozANbpnENbosYENISEI AENbosORKHON ENTbosYENISEI ENTbosORKHON ENCbosYENISEI ",
     "ENCbosORKHON ENYbosYENISEI ENYbpnANGbosORKHON ENGbosYENISEI AENGbosORKHON EPbozOPbozICbozECbosYE",
     "NISEI ECbosORKHON AQbosYENISEI AQbosORKHON IQbosYENISEI IQbosORKHON OQbosYENISEI OQbosORKHON ARb",
     "osYENISEI ARbosORKHON AERbpnSbpnESbpnSHbosYENISEI ASHbosORKHON ESHbosYENISEI ESHbosORKHON ATbosY",
     "ENISEI ATbosORKHON AETbosYENISEI AETbosORKHON OTbozBASHeerHUNGARIAN CAPITAL LETTER AbprAbpqEBbpq",
     "AMBbpqECbprNCbprCSbprDbpqANDbpqEbpqCLOSE EbpqEEbprFbprGbpsYbprHbpqIbprIbpqEJbprKbpqAKbpqUNKbpqEL",
     "bpsYbprMbprNbpsYbpqObprObpqNIKOLSBURG OEbpqRUDIMENTA OEbpqOEEbpqEPbprMPbprRbpqSHORT ERbpqESbpsZb",
     "prTbprNTbprTYbprCHbpqUbprUbpqNIKOLSBURG UEbpqRUDIMENTA UEbpqEVbprZbpsSbprNT-SHAPED SIGNbpqUSbboo",
     "SMALL LETTER AbppAbpoEBbpoAMBbpoECbppNCbppCSbppDbpoANDbpoEbpoCLOSE EbpoEEbppFbppGbpqYbppHbpoIbpp",
     "IbpoEJbppKbpoAKbpoUNKbpoELbpqYbppMbppNbpqYbpoObppObpoNIKOLSBURG OEbpoRUDIMENTA OEbpoOEEbpoEPbppM",
     "PbppRbpoSHORT ERbpoESbpqZbppTbppNTbppTYbppCHbpoUbppUbpoNIKOLSBURG UEbpoRUDIMENTA UEbpoEVbppZbpqS",
     "bppNT-SHAPED SIGNbpoUSiooNUMBER ONEbovFIVEbovTENbovFIFTYbovONE HUNDREDbozTHOUSANDbHANIFI ROHINGY",
     "A LETTER AboxBAboxPAboxTAboyTAboxJAboxCAboxHAboxKHAboxFAboxDAboyDAboxRAboyRAboxZAboxSAboyHAboxKA",
     "boxGAboxLAboxMAboxNAboxWAboxKINNA WAboxYAboxKINNA YAboxNGAboyYAboxVAboqVOWEL AbowIbowUbowEbowObo",
     "qMARK SAKINbovNA KHONNAboqSIGN HARBAHAYbovTAHALAboxNAboxSSIjoqDIGIT ZERObowONEbowTWOboxHREEbowFO",
     "URboxIVEbowSIXboxEVENbowEIGHTbowNINEbjjRUMI DIGIT ONEbyTWObzHREEbyFOURbzIVEbySIXbzEVENbyEIGHTbyN",
     "INEbsNUMBER TENbonWENTYbonHIRTYbzFORTYbonIFTYbzSIXTYbonEVENTYbzEIGHTYbzNINETYbzONE HUNDREDbzTWO ",
     "HUNDREDbonHREE HUNDREDbzFOUR HUNDREDbonIVE HUNDREDbzSIX HUNDREDbonEVEN HUNDREDbzEIGHT HUNDREDbzN",
     "INE HUNDREDbsFRACTION ONE HALFbosQUARTERbosTHIRDbooTWO THIRDScYEZIDI LETTER ELIFbooBEbooPEbopHEb",
     "ooTHEbooSEbooCIMbopHIMboqHIMbooHHAbooXAbooDALbooZALbooRAbopHAbooZAbooJAbooSINbopHINbopADbooDADbo",
     "oTAbooZEbooEYNbooXHEYNbooFAbooVAboq ALTERNATE FORMbooQAFbooKAFbopHAFbooGAFbooLAMbooMIMbooNUNbooU",
     "MbooWAWbooOWbooEWbooHAYbooYOTbooETcuCOMBINING HAMZA MARKborMADDA MARKbuHYPHENATION MARKduLETTER ",
     "LAM WITH DOT ABOVEbooYOT WITH CIRCUMFLEX ABOVEgbOLD SOGDIAN LETTER ALEPHbotFINAL ALEPHbotBETHbot",
     "FINAL BETHbotGIMELbotHEbotFINAL HEbotWAWbotZAYINbotHETHbotYODHbotKAPHbotLAMEDHbotMEMbotNUNbotFIN",
     "AL NUNbpp WITH VERTICAL TAILbotSAMEKHbotAYINbouLTERNATE AYINbotPEbotSADHEbotFINAL SADHEbpr WITH ",
     "VERTICAL TAILbotRESH-AYIN-DALETHbotSHINbotTAWbotFINAL TAWbpp WITH VERTICAL TAILbzNUMBER ONEbotTW",
     "ObouHREEbotFOURbouIVEbotTENbouWENTYbouHIRTYbotONE HUNDREDbzFRACTION ONE HALFbzLIGATURE AYIN-DALE",
     "THjSOGDIAN LETTER ALEPHbopBETHbopGIMELbopHEbopWAWbopZAYINbopHETHbopYODHbopKAPHbopLAMEDHbopMEMbop",
     "NUNbopSAMEKHbopAYINbopPEbopSADHEbopRESH-AYINbopSHINbopTAWbopFETHbopLESHbvINDEPENDENT SHINbvCOMBI",
     "NING DOT BELOWbosTWO DOTS BELOWbosDOT ABOVEbosTWO DOTS ABOVEbosCURVE ABOVEboyBELOWbosHOOK ABOVEb",
     "oxBELOWbosLONG HOOK BELOWbosRESH BELOWbosSTROKE BELOWbvNUMBER ONEbopTENboqWENTYbopONE HUNDREDbvP",
     "UNCTUATION TWO VERTICAL BARSbpy WITH DOTSbouCIRCLE WITH DOTbouTWO CIRCLES WITH DOTSbouHALF CIRCL",
     "E WITH DOTbkOLD UYGHUR LETTER ALEPHbosBETHbosGIMEL-HETHbosWAWbosZAYINbosFINAL HETHbosYODHbosKAPH",
     "bosLAMEDHbosMEMbosNUNbosSAMEKHbosPEbosSADHEbosRESHbosSHINbosTAWbosLESHbyCOMBINING DOT ABOVEbozBE",
     "LOWbovTWO DOTS ABOVEbprBELOWbyPUNCTUATION BARboxTWO BARSbpoDOTSboxFOUR DOTSdaCHORASMIAN LETTER A",
     "LEPHbosSMALL ALEPHbosBETHbosGIMELbosDALETHbosHEbosWAWbosCURLED WAWbosZAYINbosHETHbosYODHbosKAPHb",
     "osLAMEDHbosMEMbosNUNbosSAMEKHbosAYINbosPEbosRESHbosSHINbosTAWbyNUMBER ONEbosTWObotHREEbosFOURbos",
     "TENbotWENTYbosONE HUNDREDbiELYMAIC LETTER ALEPHbopBETHbopGIMELbopDALETHbopHEbopWAWbopZAYINbopHET",
     "HbopTETHbopYODHbopKAPHbopLAMEDHbopMEMbopNUNbopSAMEKHbopAYINbopPEbopSADHEbopQOPHbopRESHbopSHINbop",
     "TAWbwIGATURE ZAYIN-YODHkBRAHMI SIGN CANDRABINDUbzANUSVARAbzVISARGAbzJIHVAMULIYAbzUPADHMANIYAbuLE",
     "TTER AbopAbooIbopIbooUbopUbooVOCALIC RboxRbowLboxLbooEbooAIbooObooAUbooKAbopHAbooGAbopHAbooNGAbo",
     "oCAbopHAbooJAbopHAbooNYAbooTTAboqHAbooDDAboqHAbooNNAbooTAbopHAbooDAbopHAbooNAbooPAbopHAbooBAbopH",
     "AbooMAbooYAbooRAbooLAbooVAbooSHAbopSAbopAbooHAbooLLAbooOLD TAMIL LLLAboyRRAboyNNNAbuVOWEL SIGN A",
     "AbosBHATTIPROLU AAbosIbotIbosUbotUbosVOCALIC RbpoRbpnLbpoLbosEbosAIbosObosAUbvIRAMAbuDANDAbvOUBL",
     "E DANDAbuPUNCTUATION DOTbovUBLE DOTbotLINEbotCRESCENT BARbotLOTUSfuNUMBER ONEbooTWObopHREEbooFOU",
     "RbopIVEbooSIXbopEVENbooEIGHTbooNINEbooTENbopWENTYbopHIRTYbooFORTYbopIFTYbooSIXTYbopEVENTYbooEIGH",
     "TYbooNINETYbooONE HUNDREDbosTHOUSANDbuDIGIT ZERObonONEbonTWObooHREEbonFOURbooIVEbonSIXbooEVENbon",
     "EIGHTbonNINEbuSIGN OLD TAMIL VIRAMAbuLETTER OLD TAMIL SHORT EbprObuVOWEL SIGN OLD TAMIL SHORT Eb",
     "pvObuLETTER OLD TAMIL LLAkuNUMBER JOINERbKAITHI SIGN CANDRABINDUbzANUSVARAbzVISARGAbuLETTER Abop",
     "AbooIbopIbooUbopUbooEbooAIbooObooAUbooKAbopHAbooGAbopHAbooNGAbooCAbopHAbooJAbopHAbooNYAbooTTAboq",
     "HAbooDDAboqDHAboqHAbooRHAbooNNAbooTAbopHAbooDAbopHAbooNAbooPAbopHAbooBAbopHAbooMAbooYAbooRAbooLA",
     "booVAbooSHAbopSAbopAbooHAbuVOWEL SIGN AAbosIbotIbosUbotUbosEbosAIbosObosAUbuSIGN VIRAMAbzNUKTAbu",
     "ABBREVIATION SIGNbuENUMERATION SIGNbuNUMBER SIGNbuSECTION MARKbuDOUBLE SECTION MARKbvANDAbvOUBLE",
     " DANDAbuVOWEL SIGN VOCALIC RluNUMBER SIGN ABOVEdSORA SOMPENG LETTER SAHbouTAHbouBAHbouCAHbouDAHb",
     "ouGAHbouMAHbouNGAHbouLAHbouNAHbouVAHbouPAHbouYAHbouRAHbouHAHbouKAHbouJAHbouNYAHbouAHbouEEHbouIHb",
     "ouUHbouOHbouEHbouMAEionDIGIT ZERObotONEbotTWObouHREEbotFOURbouIVEbotSIXbouEVENbotEIGHTbotNINEhCH",
     "AKMA SIGN CANDRABINDUbzANUSVARAbzVISARGAbuLETTER AAbooIbooUbooEbooKAAbopHAAbooGAAbopHAAbooNGAAbo",
     "oCAAbopHAAbooJAAbopHAAbooNYAAbooTTAAboqHAAbooDDAAboqHAAbooNNAAbooTAAbopHAAbooDAAbopHAAbooNAAbooP",
     "AAbopHAAbooBAAbopHAAbooMAAbooYYAAbopAAbooRAAbooLAAbooWAAbooSAAbooHAAbuVOWEL SIGN AbosIbotIbosUbo",
     "tUbosEbosAIbosObosAUbosOIbuO MARKbuAU MARKbuVIRAMAbuMAAYYAAcuDIGIT ZERObonONEbonTWObooHREEbonFOU",
     "RbooIVEbonSIXbooEVENbonEIGHTbonNINEbuSECTION MARKbuDANDAbvOUBLE DANDAbuQUESTION MARKbuLETTER LHA",
     "AbuVOWEL SIGN AAbosEIbuLETTER VAAjMAHAJANI LETTER AboqIboqUboqEboqOboqKAborHAboqGAborHAboqCAborH",
     "AboqJAborHAboqNYAboqTTAbosHAboqDDAbosHAboqNNAboqTAborHAboqDAborHAboqNAboqPAborHAboqBAborHAboqMAb",
     "oqRAboqLAboqVAboqSAboqHAboqRRAbwSIGN NUKTAbwABBREVIATION SIGNbwSECTION MARKbwLIGATURE SHRIkSHARA",
     "DA SIGN CANDRABINDUbonANUSVARAbonVISARGAbvLETTER AboqAbopIboqIbopUboqUbopVOCALIC RboyRboxLboyLbo",
     "pEbopAIbopObopAUbopKAboqHAbopGAboqHAbopNGAbopCAboqHAbopJAboqHAbopNYAbopTTAborHAbopDDAborHAbopNNA",
     "bopTAboqHAbopDAboqHAbopNAbopPAboqHAbopBAboqHAbopMAbopYAbopRAbopLAboqLAbopVAbopSHAboqSAboqAbopHAb",
     "vVOWEL SIGN AAbotIbouIbotUbouUbotVOCALIC RbppRbpoLbppLbotEbotAIbotObotAUbvSIGN VIRAMAbonAVAGRAHA",
     "bonJIHVAMULIYAbonUPADHMANIYAbvOMbvDANDAbwOUBLE DANDAbvABBREVIATION SIGNbvSEPARATORbwANDHI MARKbw",
     "IGN NUKTAbvVOWEL MODIFIER MARKbvEXTRA SHORT VOWEL MARKbvSUTRA MARKbvVOWEL SIGN PRISHTHAMATRA Ebv",
     "SIGN INVERTED CANDRABINDUbvDIGIT ZERObooONEbooTWObopHREEbooFOURbopIVEbooSIXbopEVENbooEIGHTbooNIN",
     "EbvEKAMbvSIGN SIDDHAMbvHEADSTROKEbvCONTINUATION SIGNbvSECTION MARK-1bov2coINHALA ARCHAIC DIGIT O",
     "NEbowTWOboxHREEbowFOURboxIVEbowSIXboxEVENbowEIGHTbowNINEboqNUMBER TENboyWENTYboyHIRTYboxFORTYboy",
     "IFTYboxSIXTYboyEVENTYboxEIGHTYboxNINETYboxONE HUNDREDbpoTHOUSANDmKHOJKI LETTER AbopAbooIbooUbooE",
     "booAIbooObooAUbooKAbopHAbooGAbopGAbopHAbooNGAbooCAbopHAbooJAbopJAcooNYAbooTTAboqHAbooDDAboqHAboo",
     "NNAbooTAbopHAbooDAbopDDAbopHAbooNAbooPAbopHAbooBAbopBAbopHAbooMAbooYAbooRAbooLAbooVAbooSAbooHAbo",
     "oLLAbuVOWEL SIGN AAbosIbotIbosUbosEbosAIbosObosAUbuSIGN ANUSVARAbzVIRAMAbzNUKTAbzSHADDAbuDANDAbv",
     "OUBLE DANDAbuWORD SEPARATORbuSECTION MARKbuDOUBLE SECTION MARKbuABBREVIATION SIGNbuSIGN SUKUNfbM",
     "ULTANI LETTER AbopIbopUbopEbopKAboqHAbopGAcoqHAcopCAboqHAbopJAboqJAcopNYAbopTTAborHAbopDDAborDAb",
     "orHAbopNNAbopTAboqHAbopDAboqHAbopNAbopPAboqHAbopBAcoqHAbopMAbopYAbopRAbopLAbopVAbopSAbopHAbopRRA",
     "boqHAbvSECTION MARKhKHUDAWADI LETTER AbosAborIbosIborUbosUborEborAIborOborAUborKAbosHAborGAbosGA",
     "bosHAborNGAborCAbosHAborJAbosJAbosHAborNYAborTTAbotHAborDDAbotDAborRRAborDDHAborNNAborTAbosHAbor",
     "DAbosHAborNAborPAbosHAborBAbosBAbosHAborMAborYAborRAborLAborVAborSHAbosAborHAbxSIGN ANUSVARAbxVO",
     "WEL SIGN AAbovIbowIbovUbowUbovEbovAIbovObovAUbxSIGN NUKTAbopVIRAMAgxDIGIT ZEROboqONEboqTWOborHRE",
     "EboqFOURborIVEboqSIXborEVENboqEIGHTboqNINEhGRANTHA SIGN COMBINING ANUSVARA ABOVEbooANDRABINDUbon",
     "ANUSVARAbonVISARGAcvLETTER AboqAbopIboqIbopUboqUbopVOCALIC RboxLdopEEbopAIdopOObopAUbopKAboqHAbo",
     "pGAboqHAbopNGAbopCAboqHAbopJAboqHAbopNYAbopTTAborHAbopDDAborHAbopNNAbopTAboqHAbopDAboqHAbopNAcop",
     "PAboqHAbopBAboqHAbopMAbopYAbopRAcopLAboqLAcopVAbopSHAboqSAboqAbopHAcCOMBINING BINDU BELOWbGRANTH",
     "A SIGN NUKTAbonAVAGRAHAbvVOWEL SIGN AAbotIbouIbotUbouUbotVOCALIC RbppRdotEEbotAIdotOObotAUbvSIGN",
     " VIRAMAdvOMhvAU LENGTH MARKgvSIGN PLUTAbvLETTER VEDIC ANUSVARAbovDOUBLE ANUSVARAboqOCALIC RRboxL",
     "LbvVOWEL SIGN VOCALIC LbppLdCOMBINING GRANTHA DIGIT ZEROboyONEboyTWObozHREEboyFOURbozIVEboySIXeo",
     "sLETTER AbozKAbozNAbozVIbozPAkkNEWA LETTER AbonAbzIbonIbzUbonUbzVOCALIC RbovRbouLbovLbzEbzAIbzOb",
     "zAUbzKAbonHAbzGAbonHAbzNGAbooHAbzCAbonHAbzJAbonHAbzNYAbooHAbzTTAbooHAbzDDAbooHAbzNNAbzTAbonHAbzD",
     "AbonHAbzNAbonHAbzPAbonHAbzBAbonHAbzMAbonHAbzYAbzRAbonHAbzLAbonHAbzWAbzSHAbonSAbonAbzHAbsVOWEL SI",
     "GN AAboqIborIboqUborUboqVOCALIC RbozRboyLbozLboqEboqAIboqOboqAUbsSIGN VIRAMAbxCANDRABINDUbxANUSV",
     "ARAbxVISARGAbxNUKTAbxAVAGRAHAbxFINAL ANUSVARAbsOMbsSIDDHIbsDANDAbtOUBLE DANDAbsCOMMAbsGAP FILLER",
     "bsABBREVIATION SIGNbsDIGIT ZERObyONEbyTWObzHREEbyFOURbzIVEbySIXbzEVENbyEIGHTbyNINEbtOUBLE COMMAb",
     "sPLACEHOLDER MARKcsINSERTION SIGNbsSANDHI MARKbsLETTER VEDIC ANUSVARAbsSIGN JIHVAMULIYAbxUPADHMA",
     "NIYAcfTIRHUTA ANJIbvLETTER AboqAbopIboqIbopUboqUbopVOCALIC RboyRboxLboyLbopEbopAIbopObopAUbopKAb",
     "oqHAbopGAboqHAbopNGAbopCAboqHAbopJAboqHAbopNYAbopTTAborHAbopDDAborHAbopNNAbopTAboqHAbopDAboqHAbo",
     "pNAbopPAboqHAbopBAboqHAbopMAbopYAbopRAbopLAbopVAbopSHAboqSAboqAbopHAbvVOWEL SIGN AAbotIbouIbotUb",
     "ouUbotVOCALIC RbppRbpoLbppLbotEbotSHORT EbotAIbotObotSHORT ObotAUbvSIGN CANDRABINDUbonANUSVARAbo",
     "nVISARGAbopRAMAbonNUKTAbonAVAGRAHAbvGVANGbvABBREVIATION SIGNbvOMjvDIGIT ZERObooONEbooTWObopHREEb",
     "ooFOURbopIVEbooSIXbopEVENbooEIGHTbooNINEmlSIDDHAM LETTER AboqAbopIboqIbopUboqUbopVOCALIC RboyRbo",
     "xLboyLbopEbopAIbopObopAUbopKAboqHAbopGAboqHAbopNGAbopCAboqHAbopJAboqHAbopNYAbopTTAborHAbopDDAbor",
     "HAbopNNAbopTAboqHAbopDAboqHAbopNAbopPAboqHAbopBAboqHAbopMAbopYAbopRAbopLAbopVAbopSHAboqSAboqAbop",
     "HAbvVOWEL SIGN AAbotIbouIbotUbouUbotVOCALIC RbppRdotEbotAIbotObotAUbvSIGN CANDRABINDUbonANUSVARA",
     "bonVISARGAbopRAMAbonNUKTAbonSIDDHAMbvDANDAbwOUBLE DANDAbvSEPARATOR DOTbosBARbvREPETITION MARK-1b",
     "oy2boy3bvEND OF TEXT MARKbvSECTION MARK WITH TRIDENT AND U-SHAPED ORNAMENTSbpzDOTTED CRESCENTSbp",
     "nRAYS AND DOTTED CRESCENTSbqqDOUBLE CRESCENTSbqqTRIPLE CRESCENTSbovDOUBLE RINGbpt WITH RAYSbovWI",
     "TH DOUBLE CRESCENTSbpnTRIPLE CRESCENTSbpnQUADRUPLE CRESCENTSbpnSEPTUPLE CRESCENTSbpnCIRCLES AND ",
     "RAYSbpzTWO ENCLOSURESbpzFOUR ENCLOSURESbvLETTER THREE-CIRCLE ALTERNATE IboqWO-CIRCLE ALTERNATE I",
     "bpyIbopALTERNATE UbvVOWEL SIGN ALTERNATE UbprUcjMODI LETTER AbonAbzIbonIbzUbonUbzVOCALIC RbovRbo",
     "uLbovLbzEbzAIbzObzAUbzKAbonHAbzGAbonHAbzNGAbzCAbonHAbzJAbonHAbzNYAbzTTAbooHAbzDDAbooHAbzNNAbzTAb",
     "onHAbzDAbonHAbzNAbzPAbonHAbzBAbonHAbzMAbzYAbzRAbzLAbzVAbzSHAbonSAbonAbzHAbzLLAbsVOWEL SIGN AAboq",
     "IborIboqUborUboqVOCALIC RbozRboyLbozLboqEboqAIboqOboqAUbsSIGN ANUSVARAbxVISARGAbzRAMAbxARDHACAND",
     "RAbsDANDAbtOUBLE DANDAbsABBREVIATION SIGNbsSIGN HUVAmsDIGIT ZERObyONEbyTWObzHREEbyFOURbzIVEbySIX",
     "bzEVENbyEIGHTbyNINEhpNGOLIAN BIRGA WITH ORNAMENTbxROTATED BIRGAbxDOUBLE BIRGA WITH ORNAMENTbxTRI",
     "PLE BIRGA WITH ORNAMENTbxBIRGA WITH DOUBLE ORNAMENTbxROTATED BIRGA WITH ORNAMENTbpqDOUBLE ORNAME",
     "NTbxINVERTED BIRGAboy WITH DOUBLE ORNAMENTbxSWIRL BIRGAbov WITH ORNAMENTbpoDOUBLE ORNAMENTbxTURN",
     "ED SWIRL BIRGA WITH DOUBLE ORNAMENTbhTAKRI LETTER AbooAbonIbooIbonUbooUbonEbonAIbonObonAUbonKAbo",
     "oHAbonGAbooHAbonNGAbonCAbooHAbonJAbooHAbonNYAbonTTAbopHAbonDDAbopHAbonNNAbonTAbooHAbonDAbooHAbon",
     "NAbonPAbooHAbonBAbooHAbonMAbonYAbonRAbonLAbonVAbonSHAbooAbonHAbonRRAbtSIGN ANUSVARAbyVISARGAbtVO",
     "WEL SIGN AAborIbosIborUbosUborEborAIborOborAUbtSIGN VIRAMAbyNUKTAbtLETTER ARCHAIC KHAbtABBREVIAT",
     "ION SIGNhtDIGIT ZERObzONEbzTWObonHREEbzFOURbonIVEbzSIXbonEVENbzEIGHTbzNINEedAHOM LETTER KAbonHAb",
     "zNGAbonAbzTAbzALTERNATE TAbzPAbonHAbzBAbzMAbzJAbzCHAbzTHAbzRAbzLAbzSAbzNYAbzHAbzAbzDAbonHAbzGAbz",
     "ALTERNATE GAbzGHAbzBHAbzJHAbzALTERNATE BAdsCONSONANT SIGN MEDIAL LAbpoRAbpoLIGATING RAbsVOWEL SI",
     "GN AborAboqIborIboqUborUboqEboqAWboqOboqAIborMbsSIGN KILLERfsDIGIT ZERObyONEbyTWObzHREEbyFOURbzI",
     "VEbySIXbzEVENbyEIGHTbyNINEbsNUMBER TENbonWENTYbsSIGN SMALL SECTIONbyECTIONbxRULAIbtYMBOL VIbsLET",
     "TER CAbzTTAbooHAbzDDAbooHAbzNNAbzLLAbbeDOGRA LETTER AbooAbonIbooIbonUbooUbonEbonAIbonObonAUbonKA",
     "booHAbonGAbooHAbonNGAbonCAbooHAbonJAbooHAbonNYAbonTTAbopHAbonDDAbopHAbonNNAbonTAbooHAbonDAbooHAb",
     "onNAbonPAbooHAbonBAbooHAbonMAbonYAbonRAbonLAbonVAbonSHAbooSAbooAbonHAbonRRAbtVOWEL SIGN AAborIbo",
     "sIborUbosUborVOCALIC RbpnRborEborAIborOborAUbtSIGN ANUSVARAbyVISARGAbonRAMAbyNUKTAbtABBREVIATION",
     " SIGNhkWARANG CITI CAPITAL LETTER NGAAbpoAbpoWIbpoYUbppAbppObpoIIbpoUUbpoEbpoObpoANGbpoGAbpoKObp",
     "oENYbpoYUJbpoUCbpoENNbpoODDbpoTTEbpoNUNGbpoDAbpoATbppMbpoBUbpoPUbpoHIYObppOLObpqRRbppARbpoSSUUbp",
     "pIIbpoVIYObzSMALL LETTER NGAAbozAbozWIbozYUbpnAbpnObozIIbozUUbozEbozObozANGbozGAbozKObozENYbozYU",
     "JbozUCbozENNbozODDbozTTEbozNUNGbozDAbozATbpnMbozBUbozPUbozHIYObpnOLObpoRRbpnARbozSSUUbpnIIbozVIY",
     "ObzDIGIT ZERObosONEbosTWObotHREEbosFOURbotIVEbosSIXbotEVENbosEIGHTbosNINEbzNUMBER TENbouWENTYbou",
     "HIRTYbotFORTYbouIFTYbotSIXTYbouEVENTYbotEIGHTYbotNINETYbazOMbDIVES AKURU LETTER AbouAbotIbouIbot",
     "UbouUbotEdotOdotKAbouHAbotGAbouHAbotNGAbotCAbouHAbotJAcotNYAbotTTAcotDDAbovHAbotNNAbotTAbouHAbot",
     "DAbouHAbotNAbotPAbouHAbotBAbouHAbotMAbotYAbouYAbotRAbotLAbotVAbotSHAbouSAbouAbotHAbotLLAbotZAbzV",
     "OWEL SIGN AAboxIboyIboxUboyUboxEcoxAIboxOdzSIGN ANUSVARAborCANDRABINDUborHALANTAbzVIRAMAbzPREFIX",
     "ED NASAL SIGNbzMEDIAL YAbzINITIAL RAbzMEDIAL RAbzSIGN NUKTAbzDOUBLE DANDAbzGAP FILLERbzEND OF TE",
     "XT MARKkzDIGIT ZERObosONEbosTWObotHREEbosFOURbotIVEbosSIXbotEVENbosEIGHTbosNINEfgNANDINAGARI LET",
     "TER AbouAbotIbouIbotUbouUbotVOCALIC RbppRdotEbotAIbotObotAUbotKAbouHAbotGAbouHAbotNGAbotCAbouHAb",
     "otJAbouHAbotNYAbotTTAbovHAbotDDAbovHAbotNNAbotTAbouHAbotDAbouHAbotNAbotPAbouHAbotBAbouHAbotMAbot",
     "YAbotRAbotLAbotVAbotSHAbouSAbouAbotHAbotLLAbotRRAbzVOWEL SIGN AAboxIboyIboxUboyUboxVOCALIC RbptR",
     "doxEboxAIboxOboxAUbzSIGN ANUSVARAborVISARGAbotRAMAborAVAGRAHAborSIDDHAMbzHEADSTROKEbzVOWEL SIGN ",
     "PRISHTHAMATRA EccZANABAZAR SQUARE LETTER AborVOWEL SIGN IbppUEbpqbppEbppOEbpqbppAIbpqUbppREVERSE",
     "D IboxLENGTH MARKborLETTER KAbozHAboyGAbozHAboyNGAboyCAbozHAboyJAboyNYAboyTTAbpnHAboyDDAbpnHAboy",
     "NNAboyTAbozHAboyDAbozHAboyNAboyPAbozHAboyBAbozHAboyMAboyTSAbpnHAboyDZAbpnHAboyZHAbozAboy-AboyYAb",
     "oyRAboyLAboyVAboySHAbozSAbozAboyHAboyKSSAborFINAL CONSONANT MARKborSIGN VIRAMAbowCANDRABINDUbpu ",
     "WITH ORNAMENTbpp WITH ORNAMENTbowANUSVARAbowVISARGAborCLUSTER-INITIAL LETTER RAbozFINAL LETTER Y",
     "AbpzRAbpzLAbpzVAborINITIAL HEAD MARKborCLOSING HEAD MARKborMARK TSHEGbowSHADbowDOUBLE SHADbowLON",
     "G TSHEGborINITIAL DOUBLE-LINED HEAD MARKborCLOSING DOUBLE-LINED HEAD MARKborSUBJOINERjSOYOMBO LE",
     "TTER AbvVOWEL SIGN IbotUEboubotEbotObouEbotAIbouUbotVOCALIC RbpoLbooLENGTH MARKbvLETTER KAboqHAb",
     "opGAboqHAbopNGAbopCAboqHAbopJAboqHAbopNYAbopTTAborHAbopDDAborHAbopNNAbopTAboqHAbopDAboqHAbopNAbo",
     "pPAboqHAbopBAboqHAbopMAbopTSAborHAbopDZAbopZHAboqAbop-AbopYAbopRAbopLAbopVAbopSHAboqSAboqAbopHAb",
     "opKSSAbvSIGN JIHVAMULIYAbonUPADHMANIYAbvCLUSTER-INITIAL LETTER RAbpsLAbpsSHAbptAbvFINAL CONSONAN",
     "T SIGN GbpqKbpqNGbpqDbpqNbpqBbpqMbpqRbpqLbpqSHbprbpq-AbvSIGN ANUSVARAbonVISARGAbvGEMINATION MARK",
     "bvSUBJOINERbvMARK TSHEGbonSHADbonDOUBLE SHADbonPLUTAbvHEAD MARK WITH MOON AND SUN AND TRIPLE FLA",
     "MEbqoFLAMEbpwbvTERMINAL MARK-1bow2bbCANADIAN SYLLABICS NATTILIK HIbprIbpqObprObpqAbprAbppSHRIbpt",
     "IbpsObptObpsAbptAbotSPEbovIbovObovAbPAU CIN HAU LETTER PAbotKAbotLAbotMAbotDAbotZAbotVAbotNGAbot",
     "HAbotGAbotKHAbotSAbotBAbotCAbotTAbouHAbotNAbotPHAbotRAbotFAbotCHAbotAbotEbotIbotObotUbouAbotIAbo",
     "tFINAL PbozKbozTbozMbozNbozLbozWbozNGbozYbzRISING TONE LONGboxbzSANDHI GLOTTAL STOPbzRISING TONE",
     " LONG FINALboyFINALbzSANDHI GLOTTAL STOP FINALbotTONE LONGboxbox LONG FINALboyFINALbzMID-LEVEL T",
     "ONEbzGLOTTAL STOP VARIANTbzMID-LEVEL TONE LONG FINALbpoFINALbzLOW-FALLING TONE LONGbppbzGLOTTAL ",
     "STOPbzLOW-FALLING TONE LONG FINALbpqFINALbzGLOTTAL STOP FINALbheBHAIKSUKI LETTER AbosAborIbosIbo",
     "rUbosUborVOCALIC RbpnRbozLcorEborAIborOborAUborKAbosHAborGAbosHAborNGAborCAbosHAborJAbosHAborNYA",
     "borTTAbotHAborDDAbotHAborNNAborTAbosHAborDAbosHAborNAborPAbosHAborBAbosHAborMAborYAborRAborLAbor",
     "VAborSHAbosSAbosAborHAbxVOWEL SIGN AAbovIbowIbovUbowUbovVOCALIC RbprRbpqLcovEbovAIbovObovAUbxSIG",
     "N CANDRABINDUbopANUSVARAbopVISARGAborRAMAbopAVAGRAHAbxDANDAbyOUBLE DANDAbxWORD SEPARATORbxGAP FI",
     "LLER-1bov2lxDIGIT ZEROboqONEboqTWOborHREEboqFOURborIVEboqSIXborEVENboqEIGHTboqNINEbxNUMBER ONEbo",
     "rTWObosHREEborFOURbosIVEborSIXbosEVENborEIGHTborNINEborTENbosWENTYbosHIRTYborFORTYbosIFTYborSIXT",
     "YbosEVENTYborEIGHTYborNINETYbxHUNDREDS UNIT MARKeMARCHEN HEAD MARKbvMARK SHADbvLETTER KAboqHAbop",
     "GAbopNGAbopCAboqHAbopJAbopNYAbopTAboqHAbopDAbopNAbopPAboqHAbopBAbopMAbopTSAborHAbopDZAbopWAbopZH",
     "AboqAbop-AbopYAbopRAbopLAbopSHAboqAbopHAbopAdvSUBJOINED LETTER KAbpnHAbozGAbozNGAbozCAbpnHAbozJA",
     "bozNYAbozTAbpnHAbozDAbozNAbozPAbpnHAbozBAbozMAbozTSAbpoHAbozDZAbozWAbozZHAbpnAcozYAbozRAbozLAboz",
     "SHAbpnAbozHAbozAbvVOWEL SIGN AAbotIbotUbotEbotObvSIGN ANUSVARAbonCANDRABINDUfjpSARAM GONDI LETTE",
     "R AbowAbovIbowIbovUbowUbovEcovAIbovOcovAUbovKAbowHAbovGAbowHAbovNGAbovCAbowHAbovJAbowHAbovNYAbov",
     "TTAboxHAbovDDAboxHAbovNNAbovTAbowHAbovDAbowHAbovNAbovPAbowHAbovBAbowHAbovMAbovYAbovRAbovLAbovVAb",
     "ovSHAbowSAbowAbovHAbovLLAbovKSSAbovJNYAbovTRAbooVOWEL SIGN AAbozIbpnIbozUbpnUbozVOCALIC ReozEcoz",
     "AIbozOcozAUbooSIGN ANUSVARAbotVISARGAbotNUKTAbotCANDRAbotHALANTAbooVIRAMAbooREPHAbopA-KARAjooDIG",
     "IT ZERObouONEbouTWObovHREEbouFOURbovIVEbouSIXbovEVENbouEIGHTbouNINEhGUNJALA GONDI LETTER AbowAbo",
     "vIbowIbovUbowUcovEEbovAIcovOObovAUbovYAbovVAbovBAbowHAbovMAbovKAbowHAbovTAbowHAbovLAbovGAbowHAbo",
     "vDAbowHAbovNAbovCAbowHAbovTTAboxHAbovLLAbovJAbowHAbovDDAboxHAbovNGAbovPAbowHAbovHAbovRAbovSAbooV",
     "OWEL SIGN AAbozIbpnIbozUbpnUcozEEbozAIcozOObozAUbooSIGN ANUSVARAbotVISARGAbooVIRAMAbooOMiooDIGIT",
     " ZERObouONEbouTWObovHREEbouFOURbovIVEbouSIXbovEVENbouEIGHTbouNINEbkmMAKASAR LETTER KAbopGAbopNGA",
     "bopPAbopBAbopMAbopTAbopDAbopNAbopCAbopJAbopNYAbopYAbopRAbopLAbopVAbopSAbopAbvANGKAbvVOWEL SIGN I",
     "botUbotEbotObvPASSIMBANGbvEND OF SECTIONbbcLISU LETTER YHAbdTAMIL FRACTION ONE THREE-HUNDRED-AND",
     "-TWENTIETHbotONE-HUNDRED-AND-SIXTIETHbotEIGHTIETHbotSIXTY-FOURTHbotFORTIETHbotTHIRTY-SECONDbopTH",
     "REE EIGHTIETHSbovSIXTY-FOURTHSbopONE TWENTIETHbotSIXTEENTH-1bpq2botTENTHbotEIGHTHbopTHREE TWENTI",
     "ETHSbovSIXTEENTHSbopONE FIFTHbotQUARTERbotHALF-1boy2bopTHREE QUARTERSbopDOWNSCALING FACTOR KIIZH",
     "btSIGN NELbyCEVITUbyAAZHAAKKUbyUZHAKKUbyMUUVUZHAKKUbyKURUNIbyPATHAKKUbyMUKKURUNIbyKAACUbyPANAMbz",
     "ONbyVARAAKANbyPAARAMbyKUZHIbyVELIbtWET CULTIVATION SIGNbtDRY CULTIVATION SIGNbtLAND SIGNbtSALT P",
     "AN SIGNbtTRADITIONAL CREDIT SIGNbosNUMBER SIGNbtCURRENT SIGNbtAND ODD SIGNbtSPENT SIGNbtTOTAL SI",
     "GNbtIN POSSESSION SIGNbtSTARTING FROM SIGNbuIGN MUTHALIYAbyVAKAIYARAAbbtPUNCTUATION END OF TEXTb",
     "CUNEIFORM SIGN Aboq TIMES AboxBADboxGAN2 TENUboxHAboxIGIboxLAGAR GUNUboxMUSHboxSAGboq2boqBbor TI",
     "MES ASH2boyDUN3 GUNUboyGALbpnN2 TENUboyHAboyIGI GUNUbozMINboyLAGABboySHESHboyU PLUS U PLUS UbosG",
     "UNUbor2bos TIMES BALAGbozGAN2 TENUbozME PLUS ENbozSHA3bozTAK4boqDboqKbor TIMES ERIN2boySHITA PLU",
     "S GISHboqLbor TIMES ALboyDIM2boyGISHboyHAboyKAD3bozIboySHEboyUSHborANborEPHboqMARbot TIMES SHEbo",
     "qNbor OVER ANbosTHREE TIMESbosPLUS NAGA OPPOSING AN PLUS NAGAbppSQUAREDborSHEboqPINboqRADbot TIM",
     "ES KURborKABboqSAL2borHbos ZIDA TENUbotKABA TENUbotOVER ASH TUG2 OVER TUG2 TUG2 OVER TUG2 PAPbpp",
     "OVER ASHbpx CROSSING ASH OVER ASH OVER ASHbos2bosGABbopBAborDborG3borHAR2borLbos OVER BALbosAGbo",
     "rRbosA2boqIbor TIMES AboyGARboyIGI GUNUboqUbor OVER BU ABbpnUNbosCROSSING BUborLUGbou OVER BULUG",
     "borRbos2bopDAborGbos KISIM5 TIMES A PLUS MASHbpuMARbptBALAGbpuIbptGAbpv PLUS MASHbpuIbpvR2bpuUDb",
     "ptHAbptIRbpv PLUS LUbptKAKbptLAbpuUbpv PLUS MASH2bpvMbptNEbptPAP PLUS PAPbptSIbptTAK4bptU2 PLUS ",
     "GIR2bpuSHborMborRbosA3bot4boqIborBborMbos TIMES SHEbos2borNbos KASKAL U GUNU DISHborSHboqUbor OV",
     "ER DUbosGUNUbosSHESHIGborBbos TIMES ESH2bos2borGbosUDborHborNbos3bot GUNUboy GUNUbos4borR2bopEbo",
     "q TIMES PAPborOVER E NUN OVER NUNboq2bor TIMES A PLUS HA PLUS DAboyGARboyMIboySALbozHEboyUboqDIN",
     "boqGIRboqLboqNbor TIMES GAN2bpp TENUboyMEbosCROSSING ENbosOPPOSING ENbosSQUAREDboqRENborIN2boqSH",
     "2boqZENbot TIMES Abpo PLUS LALbpx TIMES LALbpoNbpnBADbpnDUN3 GUNUbpw GUNUbpnHAbpp GUNUbpnIGI GUN",
     "UbpnKASKALbpt SQUAREDbpoU3bpnLAbppL TIMES LALbpoIbpoUbpnU2bpoDbopGAbor GUNUbor2bos TIMES A PLUS ",
     "DA PLUS HAbptHAbptIGIbpnB2 TENU PLUS TABbpnNbpnSHbpp2 PLUS GALbozBADbpoR PLUS RAbpnURbpp PLUS RA",
     "bozDAbpnIbpoM TIMES SHEbpnUBbozELbpo PLUS LAbpnNbpo TIMES GAN2 TENUbozGAN2 TENUbpoRbpnIbpo4bpp P",
     "LUS AbpoR2 PLUS SUbozHA PLUS LU PLUS ESH2bpoLbpp PLUS LAbpnI PLUS LIbpnUB2bozIGI GUNUbpnSH PLUS ",
     "HU PLUS ASHbozKAKbpoSKALbpnIDbpp PLUS LALbpnU3 PLUS ANbozLAbozME PLUS ENbpnIbozNUNbpp OVER NUNbo",
     "zPAbozSALbpoRbpnHEbpp PLUS TURbpoIDbpnUMbozTAK4bozUbpnDbpo PLUS DUbotOVER GA2borBAbot CROSSING G",
     "ABAborDbos OVER GAD GAR OVER GARborLbos GAD OVER GAD GAR OVER GARbosAMborMborNbos2bot TENUbouOVE",
     "R GAN2bouCROSSING GAN2borRbos3borSHANboqESHTINbow TIMES KURboqIbor TIMES EboyUbosCROSSING GIbor4",
     "bos OVER GI4botCROSSING GI4borDIMborR2bot GUNUbos3bot TIMES A PLUS IGIbpnGAN2 TENUbpnIGIbpnLU PL",
     "US IGIbpnPAborSALbosHbot CROSSING GISHbouTIMES BADbpnTAK4bovENUboqUbor CROSSING GUbor2bos TIMES ",
     "KAKbpp TIMES IGI GUNUbozNUNbozSAL PLUS TUG2botGUNUborDbos TIMES A PLUS KURbozKURbotOVER GUD LUGA",
     "LborLborMbos TIMES SHEborRbos7bosUNbotSHbopHAbor TENUbosGUNUborLboqIbor TIMES ASHbpo2boyBADboyDI",
     "SHboyGADboyKINboyNUNboySHEboyUboqUborB2bot TIMES ANbpnHALbpnKASKALbpnLISHbpnUDborL2bopIboq AboqB",
     "boqDIMbot OVER IDIM BURbprSQUAREDboqGborIbos DIBbotRIbotOVER IGI SHIR OVER SHIR UD OVER UDbotGUN",
     "UboqLbor TIMES GAN2 TENUbor2boqMbor TIMES TAK4bosCROSSING IMbosOPPOSING IMbosSQUAREDborINboqNboq",
     "RboqSHbopKAbor TIMES AbozDbpn PLUS KU3bozSH2boyBADbpnLAGbpnRbozIboyERIN2bozSH2boyGAbpnLbpnN2 TEN",
     "UbpnRbpo PLUS SHA3 PLUS AbozIbpnR2bpnSH PLUS SARbpqCROSSING GISHbozUbpnR7boyIGIbozMboyKAKbozIbpn",
     "DboyLIbozUboyMEbpn PLUS DUbptGIbptTEbozIbpn PLUS NUNUZboyNEbozUNboyPIboyRUboySAbpnRbozHAbpnEbpnI",
     "DbpnUbozIGbozUHURboyTARboyUboz2bozDbozMUM TIMES PAbozSHboyZIbor2bos CROSSING KA2borBborD2bos3bos",
     "4bos5bot OVER KAD5borKbos TIMES IGI GUNUborLbos TIMES BADbotCROSSING KALborM2bos4borSKALbov LAGA",
     "B TIMES U OVER LAGAB TIMES UbowOVER KASKAL LAGAB TIMES U OVER LAGAB TIMES UboqESH2boqIbor TIMES ",
     "BADboyUbozDborDborNborSALbosHbosIM5bov OVER KISIM5boqUbor OVER HI TIMES ASH2 KU OVER HI TIMES AS",
     "H2bor3bor4bos VARIANT FORMbor7borLbos GUNUborNborRbos OPPOSING KURborSHU2boqWU318bopLAborGABbou ",
     "TIMES Abpp PLUS DA PLUS HAbpvGARbpvLALbppLbppNbppSH ZIDA TENUbpoBADbppIbpoDARbpoENbpoGAbpqRbppUD"]

def characterNameRecordsPart10 : String :=
  String.join
    ["bpr PLUS GUDbpoHAbpqLbppI TIMES NUNbpoIGI GUNUbppMbpq PLUS HAbpwLUbpoKIbpqNbppU3bpqLbpr PLUS HI ",
     "PLUS AbpoLAGABbppISHbppUbpqLbpoMEbpq PLUS ENbppUSHbpoNEbpoSHE PLUS SUMbpqITA PLUS GISH PLUS ERIN",
     "2bqrTENUbpqU2bps PLUS SHU2bppUMbpoTAGbpqK4bppE PLUS A PLUS SU PLUS NAbpoUbpp PLUS AbpvU PLUS Ubp",
     "p2 PLUS ASHbppDbppSHbovSQUAREDbotRbou TIMES SHEbpr PLUS SUMbovGUNUboz OVER LAGAR GUNU SHEborHSHU",
     "borLbos TIMES LALborMbos TIMES KURbpp PLUS RUboqIborLborMMU2borSHboqUbor TIMES BADbor2bos TIMES ",
     "ALbozBADbozESH2bpq TENUbozGAN2 TENUbozHI TIMES BADbozIMbozKAD2bpp3bpq PLUS ASHbpnIbozLA PLUS ASH",
     "bpoGABbozME PLUS ENbozNEbpnUbozSI PLUS ASHbpoK2 PLUS BUbozTUG2bouENUbotCROSSING LU2botOPPOSING L",
     "U2botSQUAREDbouHESHIGbor3borGALbou OVER LUGALbowPPOSING LUGALbovSHESHIGborHborLborMbos OVER LUMb",
     "po GAR OVER GARbopMAbor TIMES TAK4bosGUNUbor2borHborRborSHbot2boqEborSboqIborNboqUbor OVER MUbor",
     "Gbos GUNUborNSUBborRGU2borSHbot TIMES AbpnKURbpnZAbouOVER MUSHbpq TIMES A PLUS NAbouCROSSING MUS",
     "Hbot3bou TIMES Abpp PLUS DIbpoDIbovGUNUbopNAbor2borGAbot INVERTEDbouTIMES SHU TENUbouOPPOSING NA",
     "GAbotRborM NUTILLUbosbos2boqEbor TIMES AboyUDbosSHESHIGboqIbor TIMES Ebor2borMbos TIMES GAN2 TEN",
     "UbpoR PLUS GAN2 TENUborNDA2bov TIMES ANbpqSHbps PLUS ASHbppGUDbppME PLUS GAN2 TENUbppNEbpqUNbppS",
     "HEbps PLUS A ANbpzSHbqo PLUS ASHbppU2 PLUS ASHbpqSHborSAGboqUbor11borNbos LAGAR TIMES GARbpsMASH",
     "bpsSALbpv OVER NUN LAGAR TIMES SALbpsUSHbotTENUbotOVER NUNbotCROSSING NUNbps LAGAR OVER LAGARbos",
     "UZbou AB2 TIMES ASHGABbpsBIbpsDUGbpsGUDbpsIGI GUNUbpsKAD3bpsLAbpsNEbpsSILA3bpsU2bovKISIM5 TIMES ",
     "BIbpx UbopPAborDborNborPboqESH2boqIbor TIMES AbozBboyBIbozUboyEboyIbozBboyUboz2bosCROSSING PIbor",
     "RIGbou TIMES KALbpoUDbpoZAbovOPPOSING PIRIGbopRAborBboqIboqUbopSAborG NUTILLUbosbos TIMES AbozDU",
     "bpoBbozHAbozKAKbpnURbozLUMbozMIbozNUNbozSALbpnHIDbozTABbozU2bpnBbpnMbpnRbpnSHbotOVER SAGbotGUNUb",
     "orLbos LAGAB TIMES ASH2borNGA2borRboqHAbos3bot TIMES AbpnBADbpnGISHbpnNEbpnSHU2bpnTURbpnUbpo PLU",
     "S Abos6bosB6bosR2borEbos HUbotOVER SHE GAD OVER GAD GAR OVER GARbppTAB OVER TAB GAR OVER GARbosG",
     "9bosNbosSHbou2bouLAMborIDbot TIMES AbpnIMbosMbot TIMES AbpnBALbpoULUGbpnDINbpnGARbpnIGIbpq GUNUb",
     "pnKUSHU2bpnLULbpnMUGbpnSALbosNIGbosRbot TENUbouOVER SHIR BUR OVER BURbosTAborUbos OVER INVERTED ",
     "SHUbos2bosBURboqIbor GUNUborGbos4bot OVER SIG4 SHU2borK2borLA3boqUbor OVER SUborDbos2borHURborMb",
     "osASHborRbos9bopTAbor ASTERISKbosTIMES HIboyMIbosGUNUborBbos OVER TAB NI OVER NI DISH OVER DISHb",
     "otSQUAREDborGbos TIMES BIbozGUDbozSHEbpoUbozTUG2bozUDborK4borRboqEbor GUNUboqIbor TENUborLborRbo",
     "s TIMES TAK4botOVER TIRbpo GAD OVER GAD GAR OVER GARboqUborG2borKborMborRbos OVER TUR ZA OVER ZA",
     "bopUboq GUDborU UborOVER U PA OVER PA GAR OVER GARboySUR OVER SURboyU REVERSED OVER U REVERSEDbo",
     "q2boqBboqDbor KUSHU2bosTIMES BADboyMIboyU PLUS U PLUS Ubqn GUNUbosGUNUbosSHESHIGboz TIMES BADbor",
     "UGboqMbor TIMES LAGABboyME PLUS DAboySHA3boyUborBINborUMbot TIMES KASKALbpnPAboqNbor GUNUboqRbor",
     " CROSSING URbosSHESHIGbor2bos TIMES A PLUS HAbptNAbpnLbozHAbozNUNbozU2bpo PLUS ASHbpuBIbor4borIb",
     "os3borUbos TIMES AbpnSHGABbozBARbozDUNbozGAbpoLbpoN2 TENUbpoRbpnUbozHAbozIGIbpnMbpnSHbozKIbozLUM",
     "bozMINbozPAbozSHEbpnIG4bozTUbozU PLUS GUDbpnDbpnRUDAbosDAbou TIMES UboqSHbos TIMES AbozKUbpoRboz",
     "TAK4bosXbos2bosUMXboqTUKIboqZ3bos TIMES KASKALborUbopZAbor TENUbosSQUARED TIMES KURborGborMXboqE",
     "2boqIbor OVER ZIbor3borBbos KABA TENUborGborZ2boqUbor5bos TIMES AborBURborMbopKAP ELAMITEbopAB T",
     "IMES NUNbor2 TIMES AboqMAR TIMES KUGbopDAG KISIM5 TIMES U2 PLUS MASHbos3boqISH PLUS SHUboqUB TIM",
     "ES SHEbopEZEN TIMES GUDbpnSHEbopGA2 TIMES AN PLUS KAK PLUS AbpnSH2boqE22boqIGbopHUSHbopKA TIMES ",
     "ANSHEbozSH3boyGISHbozUDboyHI TIMES ASH2boyLUMboyPAboySHULboyTUboyUR2bopLAGAB TIMES GIboqU2 SHESH",
     "IG TIMES BADbotTIMES ESH2 PLUS LALbozSHUbopMESHboqUSH3 TIMES ZAbopNA4boqINbos9bosDA2 TIMES BALbp",
     "pGIboqU11 ROTATED NINETY DEGREESbopPESH2 ASTERISKboqIR2bopSAG TIMES IGI GUNUbopTI2bopUM TIMES ME",
     "boq UhmxNUMERIC SIGN TWO ASHboyHREE ASHboxFOUR ASHboyIVE ASHboxSIX ASHboyEVEN ASHboxEIGHT ASHbox",
     "NINE ASHboxTHREE DISHboxFOUR DISHboyIVE DISHboxSIX DISHboyEVEN DISHboxEIGHT DISHboxNINE DISHboxF",
     "OUR UboyIVE UboxSIX UboyEVEN UboxEIGHT UboxNINE UboxONE GESH2boxTWO GESH2boyHREE GESH2boxFOUR GE",
     "SH2boyIVE GESH2boxSIX GESH2boyEVEN GESH2boxEIGHT GESH2boxNINE GESH2boxONE GESHUboxTWO GESHUboyHR",
     "EE GESHUboxFOUR GESHUboyIVE GESHUboxTWO SHAR2boyHREE SHAR2bpv VARIANT FORMboxFOUR SHAR2boyIVE SH",
     "AR2boxSIX SHAR2boyEVEN SHAR2boxEIGHT SHAR2boxNINE SHAR2boxONE SHARUboxTWO SHARUboyHREE SHARUbpv ",
     "VARIANT FORMboxFOUR SHARUboyIVE SHARUboxSHAR2 TIMES GAL PLUS DISHbqsMINboxONE BURUboxTWO BURUboy",
     "HREE BURUbpu VARIANT FORMboxFOUR BURUboyIVE BURUboxTHREE VARIANT FORM ESH16bqt21boxFOUR VARIANT ",
     "FORM LIMMUbqu4bqu AbqvBboxSIX VARIANT FORM ASH9boyEVEN VARIANT FORM IMIN3bqu AbqvBboxEIGHT VARIA",
     "NT FORM USSUbqu3boxNINE VARIANT FORM ILIMMUbqv3bqv4bqv AboxTWO ASH TENUboyHREE ASH TENUboxFOUR A",
     "SH TENUboyIVE ASH TENUboxSIX ASH TENUboxONE BAN2boxTWO BAN2boyHREE BAN2boxFOUR BAN2bpt VARIANT F",
     "ORMboyIVE BAN2bpt VARIANT FORMboxNIGIDAMINbpqESHboxONE ESHE3boxTWO ESHE3boxONE THIRD DISHboxTWO ",
     "THIRDS DISHboxFIVE SIXTHS DISHboxONE THIRD VARIANT FORM AboxTWO THIRDS VARIANT FORM AboxONE EIGH",
     "TH ASHbpoQUARTER ASHboyLD ASSYRIAN ONE SIXTHbqoQUARTERboyNE QUARTER GURbpoHALF GURboxELAMITE ONE",
     " THIRDbpsTWO THIRDSbpsFORTYbptIFTYboxFOUR U VARIANT FORMboyIVE U VARIANT FORMboxSIX U VARIANT FO",
     "RMboyEVEN U VARIANT FORMboxEIGHT U VARIANT FORMboxNINE U VARIANT FORMcxPUNCTUATION SIGN OLD ASSY",
     "RIAN WORD DIVIDERbpoVERTICAL COLONbpoDIAGONAL COLONbpxTRICOLONbpxQUADCOLONmxSIGN AB TIMES NUN TE",
     "NUboySHU2boqD TIMES ESH2bopBAD TIMES DISH TENUborHAR2 TIMES AB2bppNIbppZAboqU OVER BU TIMES NA2b",
     "opDA TIMES TAK4borG TIMES KURboqIM TIMES IGIbozU U Ubos2 TIMES UDboqUG TIMES ANSHEbpnSHbpp AT LE",
     "FTbozDINbpnUNbozERIN2bozGAbpnIbpoR2 GUNUbpoSHbozHAbpnIbozIGI GUNUbozKASKALbpnURbpoSHU2bps PLUS K",
     "ASKALbozLAK-020bpoMbpp TIMES KURbpnUH PLUS GISHbozMASHbpnESbpnIbozNIbozPIbozSHEbpnI GUNUbopE2 TI",
     "MES KURboyPAPboqRIN2 XboqSH2 CROSSING ESH2boqZEN SHESHIG TIMES ASHbpvHIbpvIGI GUNUbpvLAbpxLbpvME",
     "bpxSbpvSUbouTIMES SUbopGA2 TIMES BAHAR2bozDIM GUNUbpnUG TIMES IGI GUNUbpwKASKALbozERENbozGAbpoR ",
     "PLUS DIbpvNEbozHA PLUS AbozKUSHU2 PLUS KASKALbozLAMbpp TIMES KURbpnUHbozMUSHbozNEbpo PLUS E2bpuG",
     "IbozSHIMbozZIZ2borBA ROTATED NINETY DEGREESboqESHTIN TIMES UboqISH TIMES GISH CROSSING GISHboqU2",
     " TIMES IGI GUNUborD PLUS GISH TIMES TAK4bopHA TENU GUNUboqI TIMES ASH OVER HI TIMES ASHbopKA TIM",
     "ES BUboyKAboyU U UbozRbopLAGAB TIMES ZU OVER ZUborK-003bou21bov5bou30bou50bov1bou62bou79 OVER LA",
     "K-079 GUNUbou80bov1 OVER LAK-081bou92bot130bou42bot210bov9bou20bov5bov8bou38bou65bov6bot343bov7b",
     "ov8bou83bov4bou90bot441bov9bow TIMES GUbpqIGIbpqPAP PLUS LU3bpzPAP PLUS LU3bpqU2 PLUS BAbou50bov",
     "7bou70bou83bou90bov2bov3bov5bot550bot608bou17bow TIMES ASHbpqBADbpqDUN3 GUNU GUNUbpqKU3bpqLAbpqT",
     "ARbprEbpqU2bprDbprRUDAbou36bou48bow TIMES DUBbpqGAbpqIGIbpt GUNUbpqNIbpqPAP PLUS PAP PLUS LU3bpq",
     "SHESH PLUS KIbpqUDbprRUDAbot724bou49boqU2 GUNU TIMES ASHbotTIMES DISHbozHALbozPAPbpp PLUS PAP PL",
     "US LU3bozTAK4bopMI PLUS ZA7boqUSH OVER MUSH TIMES GAbpxKAKbopNINDA2 TIMES DIM GUNUbppGISHbpqULbp",
     "pHIbppKESH2bppLAK-050bppMASHbppPAP PLUS PAPbppUbpq PLUS UbpqRUDAbopSAG GUNU TIMES HAbotTIMES ENb",
     "ozSHE AT LEFTbozTAK4boqHA6 TENUborE OVER SHEbotPLUS HUB2boyNAM2boySARborU2 PLUS DUG TIMES NIbozE",
     "2 TIMES ANboqI TIMES TAK4bopTAK4 PLUS SAGboqUM TIMES GAN2 TENUbozTHREE DISHbopUR2 INVERTEDbotTIM",
     "ES UDborU TIMES DARA3bozLAK-668bpnU3bopZA7boqU OVER ZU PLUS SARbor5 TIMES THREE DISH TENUbchloYP",
     "RO-MINOAN SIGN CM001bow2bow4bow5bow6bow7bow8bow9bov10bow1bow2boxBbow3bow5bow7bow9bov21bow3bow4bo",
     "w5bow6bow7bow8bow9bov30bow3bow4bow5bow6bow7bow8bow9bov40bow1bow4bow6bow7bow9bov50bow1bow2bow3bow",
     "4bow5bow6bow8bow9bov60bow1bow2bow3bow4bow6bow7bow8bow9bov70bow1bow2bow3bow4bow5boxBbow6bow8bow9b",
     "ov80bow1bow2bow3bow4bow5bow6bow7bow8bow9bov90bow1bow2bow4bow5bow6bow7bow8bow9bou100bow1bow2bow3b",
     "ow4bow5bow7bow8bow9bov10bow2bow4bou301bow2bbEGYPTIAN HIEROGLYPH A001box2box3box4box5boyAbox6boyA",
     "boyBbox7box8box9bow10box1box2box3box4boyAbox5box6box7boyAbox8box9bow20box1box2box3box4box5box6bo",
     "x7box8box9bow30box1box2boyAbox3box4box5box6box7box8box9bow40boyAbox1box2boyAbox3boyAbox4box5boyA",
     "box6box7box8box9bow50box1box2box3box4box5box6box7box8box9bow60box1box2box3box4box5box6box7box8bo",
     "x9bow70bouB001box2box3box4box5boyAbox6box7box8box9bouC001box2boyAboyBboyCbox3box4box5box6box7box",
     "8box9bow10boyAbox1box2box3box4box5box6box7box8box9bow20box1box2box3box4bouD001box2box3box4box5bo",
     "x6box7box8boyAbox9bow10box1box2box3box4box5box6box7box8box9bow20box1box2box3box4box5box6box7boyA",
     "box8box9bow30box1boyAbox2box3box4boyAbox5box6box7box8box9bow40box1box2box3box4box5box6boyAbox7bo",
     "x8boyAbox9bow50boyAboyBboyCboyDboyEboyFboyGboyHboyIbox1box2boyAbox3box4boyAbox5box6box7box8box9b",
     "ow60box1box2box3box4box5box6box7boyAboyBboyCboyDboyEboyFboyGboyHbouE001box2box3box4box5box6box7b",
     "ox8boyAbox9boyAbow10box1box2box3box4box5box6boyAbox7boyAbox8box9bow20boyAbox1box2box3box4box5box",
     "6box7box8boyAbox9bow30box1box2box3box4boyAbox6box7box8bouF001boyAbox2box3box4box5box6box7box8box",
     "9bow10box1box2box3boyAbox4box5box6box7box8box9bow20box1boyAbox2box3box4box5box6box7box8box9bow30",
     "box1boyAbox2box3box4box5box6box7boyAbox8boyAbox9bow40box1box2box3box4box5boyAbox6boyAbox7boyAbox",
     "8box9bow50box1boyAboyBboyCbox2box3bouG001box2box3box4box5box6boyAbox7boyAboyBbox8box9bow10box1bo",
     "yAbox2box3box4box5box6box7box8box9bow20boyAbox1box2box3box4box5box6boyAbox7box8box9bow30box1box2",
     "box3box4box5box6boyAbox7boyAbox8box9bow40box1box2box3boyAbox4box5boyAbox6box7box8box9bow50box1bo",
     "x2box3box4bouH001box2box3box4box5box6boyAbox7box8bouI001box2box3box4box5boyAbox6box7box8box9boyA",
     "bow10boyAbox1boyAbox2box3box4box5bouK001box2box3box4box5box6box7box8bouL001box2boyAbox3box4box5b",
     "ox6boyAbox7box8bouM001boyAboyBbox2box3boyAbox4box5box6box7box8box9bow10boyAbox1box2boyAboyBboyCb",
     "oyDboyEboyFboyGboyHbox3box4box5boyAbox6boyAbox7boyAbox8box9bow20box1box2boyAbox3box4boyAbox5box6",
     "box7box8boyAbox9bow30box1boyAbox2box3boyAboyBbox4box5box6box7box8box9bow40boyAbox1box2box3box4bo",
     "uN001box2box3box4box5box6box7box8box9bow10box1box2box3box4box5box6box7box8boyAboyBbox9bow20box1b",
     "ox2box3box4box5boyAbox6box7box8box9bow30box1box2box3boyAbox4boyAbox5boyAbox6box7boyAbox8box9bow4",
     "0box1box2bovL001boy2boy3boy4boy5bozAboy6boy7boy8boy9box10boy1boy2boy3boy4boy5boy6boy7bozAboy8boy",
     "9box20bovU001boy2boy3boy4boy5boy6boy7boy8boy9box10bozAboy1bozAboy2boy3boy4boy5boy6boy7boy8bozAbo",
     "y9box20boy1boy2bozAbouO001boyAbox2box3box4box5boyAbox6boyAboyBboyCboyDboyEboyFbox7box8box9bow10b",
     "oyAboyBboyCbox1box2box3box4box5box6box7box8box9boyAbow20boyAbox1box2box3box4boyAbox5boyAbox6box7",
     "box8box9boyAbow30boyAbox1box2box3boyAbox4box5box6boyAboyBboyCboyDbox7box8box9bow40box1box2box3bo",
     "x4box5box6box7box8box9bow50boyAboyBbox1bouP001boyAbox2box3boyAbox4box5box6box7box8box9bow10box1b",
     "ouQ001box2box3box4box5box6box7bouR001box2boyAbox3boyAboyBbox4box5box6box7box8box9bow10boyAbox1bo",
     "x2box3box4box5box6boyAbox7box8box9bow20box1box2box3box4box5box6box7box8box9bouS001box2boyAbox3bo",
     "x4box5box6boyAbox7box8box9bow10box1box2box3box4boyAboyBbox5box6box7boyAbox8box9bow20box1box2box3",
     "box4box5box6boyAboyBbox7box8box9bow30box1box2box3box4box5boyAbox6box7box8box9bow40box1box2box3bo",
     "x4box5box6bouT001box2box3boyAbox4box5box6box7boyAbox8boyAbox9boyAbow10box1boyAbox2box3box4box5bo",
     "x6boyAbox7box8box9bow20box1box2box3box4box5box6box7box8box9bow30box1box2boyAbox3boyAbox4box5box6",
     "bouU001box2box3box4box5box6boyAboyBbox7box8box9bow10box1box2box3box4box5box6box7box8box9bow20box",
     "1box2box3boyAbox4box5box6box7box8box9boyAbow30box1box2boyAbox3box4box5box6box7box8box9bow40box1b",
     "ox2bouV001boyAboyBboyCboyDboyEboyFboyGboyHboyIbox2boyAbox3box4box5box6box7boyAboyBbox8box9bow10b",
     "ox1boyAboyBboyCbox2boyAboyBbox3box4box5box6box7box8box9bow20boyAboyBboyCboyDboyEboyFboyGboyHboyI",
     "boyJboyKboyLbox1box2box3boyAbox4box5box6box7box8boyAbox9boyAbow30boyAbox1boyAbox2box3boyAbox4box",
     "5box6box7boyAbox8box9bow40boyAbouW001box2box3boyAbox4box5box6box7box8box9boyAbow10boyAbox1box2bo",
     "x3box4boyAbox5box6box7boyAbox8boyAbox9bow20box1box2box3box4boyAbox5bouX001box2box3box4boyAboyBbo",
     "x5box6boyAbox7box8boyAbouY001boyAbox2box3box4box5box6box7box8bouZ001box2boyAboyBboyCboyDbox3boyA",
     "boyBbox4boyAbox5boyAbox6box7box8box9bow10box1box2box3box4box5boyAboyBboyCboyDboyEboyFboyGboyHboy",
     "Ibox6boyAboyBboyCboyDboyEboyFboyGboyHbouAA001boy2boy3boy4boy5boy6boy7bozAbozBboy8boy9box10boy1bo",
     "y2boy3boy4boy5boy6boy7boy8boy9box20boy1boy2boy3boy4boy5boy6boy7boy8boy9box30boy1boy2couVERTICAL ",
     "JOINERbouHORIZONTAL JOINERbouINSERT AT TOP STARTbprBOTTOM STARTbprTOP ENDbprBOTTOM ENDbouOVERLAY",
     " MIDDLEbouBEGIN SEGMENTbouEND SEGMENTbklkANATOLIAN HIEROGLYPH A001boy2boy3boy4boy5boy6boy7boy8bo",
     "y9box10bozAboy1boy2boy3boy4boy5boy6boy7boy8boy9box20boy1boy2boy3boy4boy5boy6bozAboy7boy8boy9box3",
     "0boy1boy2boy3boy4boy5boy6boy7boy8boy9bozAbox40boy1bozAboy2boy3boy4boy5bozAboy6bozAbozBboy7boy8bo",
     "y9box50boy1boy2boy3boy4boy5boy6boy7boy8boy9box60boy1boy2boy3boy4boy5boy6bozAbozBbozCboy7boy8boy9",
     "box70boy1boy2boy3boy4boy5boy6boy7boy8boy9box80boy1boy2boy3boy4boy5boy6boy7boy8boy9box90boy1boy2b",
     "oy3boy4boy5boy6boy7bozAboy8bozAboy9bow100bozAboy1bozAboy2bozAboy3boy4bozAbozBbozCboy5bozAbozBboy",
     "6boy7bozAbozBbozCboy8boy9box10bozAbozBboy1boy2boy3boy4boy5bozAboy6boy7boy8boy9box20boy1boy2boy3b",
     "oy4boy5bozAboy6boy7boy8boy9box30boy1boy2boy3boy4boy5bozAboy6boy7boy8boy9box40boy1boy2boy3boy4boy",
     "5boy6boy7boy8boy9box50boy1boy2boy3boy4boy5boy6boy7boy8boy9box60boy1boy2boy3boy4boy5boy6boy7boy8b",
     "oy9box70boy1boy2boy3boy4boy5boy6boy7boy8boy9box80boy1boy2boy3boy4boy5boy6boy7boy8boy9box90boy1bo",
     "y2boy3boy4boy5boy6boy7boy8boy9bow200boy1boy2bozAbozBboy3boy4boy5boy6boy7bozAboy8boy9bozAbox10boy",
     "1boy2boy3boy4boy5bozAboy6bozAboy7boy8boy9box20boy1boy2boy3boy4boy5boy6boy7bozAboy8boy9box30boy1b",
     "oy2boy3boy4boy5boy6boy7boy8boy9box40boy1boy2boy3boy4boy5boy6boy7boy8boy9box50boy1boy2boy3boy4boy",
     "5boy6boy7boy8boy9box60boy1boy2boy3boy4boy5boy6boy7bozAboy8boy9box70boy1boy2boy3boy4boy5boy6boy7b",
     "oy8boy9box80boy1boy2boy3boy4boy5boy6boy7boy8boy9bozAbox90boy1boy2boy3boy4bozAboy5boy6boy7boy8boy",
     "9bozAbow300boy1boy2boy3boy4boy5boy6boy7boy8boy9bozAbox10boy1boy2boy3boy4boy5boy6boy7boy8boy9box2",
     "0boy1boy2boy3boy4boy5boy6boy7boy8boy9bozAbox30boy1boy2AbozBbozCboy3boy4boy5boy6bozAbozBbozCboy7b",
     "oy8boy9box40boy1boy2boy3boy4boy5boy6boy7boy8boy9box50boy1boy2boy3boy4boy5boy6boy7boy8boy9bozAbox",
     "60boy1boy2boy3boy4bozAboy5boy6boy7boy8bozAboy9box70boy1bozAboy2boy3boy4boy5boy6boy7boy8boy9box80",
     "boy1bozAboy2boy3 RA OR RIbozAboy4boy5boy6bozAboy7boy8boy9box90boy1boy2boy3 EIGHTboy4boy5boy6boy7",
     "boy8boy9bow400boy1boy2boy3boy4boy5boy6boy7boy8boy9box10 BEGIN LOGOGRAM MARKbozA END LOGOGRAM MAR",
     "Kboy1boy2boy3boy4boy5boy6boy7boy8boy9box20boy1boy2boy3boy4boy5boy6boy7boy8boy9box30boy1boy2boy3b",
     "oy4boy5boy6boy7boy8boy9box40boy1boy2boy3boy4boy5boy6boy7boy8boy9box50bozAboy1boy2boy3boy4boy5boy",
     "6boy7bozAboy8boy9box60boy1boy2boy3boy4boy5boy6boy7boy8boy9box70boy1boy2boy3boy4boy5boy6boy7boy8b",
     "oy9box80boy1boy2boy3boy4boy5boy6boy7boy8boy9box90boy1boy2boy3boy4boy5boy6boy7bow501boy2boy3boy4b",
     "oy5boy6boy7boy8boy9box10boy1boy2boy3boy4boy5boy6boy7boy8boy9box20boy1boy2boy3boy4boy5boy6boy7boy",
     "8boy9box30dmbcBAMUM LETTER PHASE-A NGKUE MFONbovGBIEE FONbovPON MFON PIPAEMGBIEEbpxBAbovNAA MFON",
     "bovSHUENSHUETbovTITA MFONbovNZA MFONbovSHINDA PA NJIbovPON PA NJI PIPAEMGBIEEbpzBAbovMAEMBGBIEEb",
     "ovTU MAEMBAbovNGANGUbovMAEMVEUXboxNSUAEbowVEUAENGAMbovSEUNYAMbovNTOQPENbovKEUKEUTNDAbovNKINDIbov",
     "SUUbovNGKUENZEUMbovLAPAQbowET KUTbovNTAP MFAAbovMAEKEUPbovPASHAEbovGHEUAERAEbovPAMSHAEbovMON NGG",
     "EUAETbovNZUN MEUTbovU YUQ NAEbovGHEUAEGHEUAEbovNTAP NTAAbovSISAbovMGBASAbowEUNJOMNDEUQbowOOMPUQb",
     "ovKAFAbovPA LEERAEWAbovNDA LEERAEWAbovPETbovMAEMKPENbovNIKAbovPUPbovTUAEPbovLUAEPbovSONJAMbovTEU",
     "TEUWENbovMAENYIbovKETbovNDAANGGEUAETbovKUOQbovMOOMEUTbovSHUMbovLOMMAEbovFIRIbovROMbovKPOQbovSOQb",
     "ovMAP PIEETbovSHIRAEbovNTAPbovSHOQ NSHUT YUMbovNYIT MONGKEUAEQbovPAARAEbovNKAARAEbovUNKNOWNbovNG",
     "GENbovMAESIbovNJAMbovMBANYIbovNYETbovTEUAENbovSOTbovPAAMbovNSHIEEbovMAEMbovNYIbovKAQbovNSHAbovVE",
     "EbovLUbovNENbowAQbovMBAQbotB NSHUETbovTU MAEMGBIEEbovSIEEbowET TUbovLOM NTEUMbovMBA MAELEEbovKIE",
     "EMbovYEURAEbovMBAARAEbovKAMbovPEESHIbovYAFU LEERAEWAbovLAM NSHUT NYAMbovNTIEE SHEUOQbowDU NJAAbo",
     "vGHEUGHEUAEMbovPITbovTU NSIEEbovSHET NJAQboyUAEQTUbovMFON TEUAEQbowBIT MBAAKETbovNYI NTEUMbovKEU",
     "PUQbovGHEUGHENbovKEUYEUXbovLAANAEbovPARUMbovVEUMbovNGKINDI MVOPboxGEU MBUbovWUAETbovSAKEUAEbovTA",
     "AMbovMEUQbovNGGUOQbpo LARGEbovMFIYAQbovSUEbovMBEURIbowONTIEENbovNYAEMAEbovPUNGAAMbovMEUT NGGEETb",
     "ovFEUXbovMBUOQbovFEEbovKEUAEMbovMA NJEUAENAbpnUQAbovLETbovNGGAAMbowSENbovMAbovKIQbovNGOMbotC NGK",
     "UE MAEMBAbowZAbovYUMbovWANGKUOQbovNGGENbowDEUAEREEbowGKAQbovGHARAEbovMBEEKEETbovGBAYIbovNYIR MKP",
     "ARAQ MEUNbowTU MBITbovMBEUMbovPIRIEENbovNDOMBUbovMBAA CABBAGE-TREEbovKEUSHEUAEPbovGHAPbovKEUKAQb",
     "ovYU MUOMAEbovNZEUMbovMBUEbovNSEUAENbovMBITbovYEUQbovKPARAQbowAAbovSEUXbovNDIDAbovTAASHAEbovNJUE",
     "QbovTITA YUEbovSUAETbovNGGUAEN NYAMbovVEUXbovNANSANAQbovMA KEUAERIbovNTAAbowGGUONbovLAPbovMBIRIE",
     "ENbowGBASAQbovNTEUNGBAbovTEUTEUXbovNGGUMbovFUEbovNDEUTbowSAboxHAQbovBUNGbovVEUAEPENbovMBERAEbovR",
     "UbovNJAEMbovLAMbovTITUAEPbovNSUOT NGOMbowJEEEEbovKETbovNGGUbovMAESIbowBUAEMbovLUbovKUTbovNJAMbow",
     "GOMbovWUPbovNGGUEETbowSOMbowTENbovKUOP NKAARAEbovNSUNbowDAMbovMA NSIEEbovYAAbovNDAPbovSHUEQbowET",
     "FONbovMBIbowAEMBAbowBANYIbovKEUSEUXbovMBEUXbovKEUMbovMBAA PICKETbovYUWOQbovNJEUXbovMIEEbowUAEbov",
     "SHIQbovKEN LAWbozFATIGUEbovNGAQbowAQbovLIQbovPINbowENbovTETbotD MBUObovWAPbovNJIbovMFONbovNJIEEb",
     "ovLIEEbovNJEUTbowSHEEbowGGAAMAEbowYAMbovWUAENbovNGKUNbovSHEEbovNGKAPbovKEUAETMEUNbovTEUTbovSHEUA",
     "EbovNJAPbovSUEbovKETbovYAEMMAEbovKUOMbovSAPbovMFEUTbovNDEUXbovMALEERIbowEUTbovSEUAEQbovYENbovNJE",
     "UAEMbovKEUOT MBUAEbovNGKEURIbovTUbovGHAAbovNGKYEEbovFEUFEUAETbovNDEEbovMGBOFUMbovLEUAEPbovNDONbo",
     "vMONIbowGBEUNbovPUUTbovMGBIEEbowFObovLUMbovNSIEEPbovMBAAbovKWAETbovNYETbovTEUAENbovSOTbovYUWOQbo",
     "vKEUMbovRAEMbovTEEEEbovNGKEUAEQbovMFEUAEbovNSIEETbovKEUPbovPIPbowEUTAEbovNYUEbovLETbovNGGAAMbovM",
     "FIEEbovNGGWAENbovYUOMbovPAPbovYUOPbovNDAMbowTEUMbovSUAEbovKUNbovNGGEUXboxKIEEbovTUOTbovMEUNbovKU",
     "QbovNSUMbovTEUNbovMAENJETbovNGGAPbovLEUMbovNGGUOMbowSHUTbowJUEQbovGHEUAEbovKUbovREN OLDbovTAEbow",
     "OQbovNYIbovRIIbovLEEEEbovMEEEEbowbovSUUbovMUbovSHIIboxEUXbovKYEEbovNUbovSHUbovNTEEbovPEEbovNIbov",
     "SHOQbovPUQbovMVOPbovLOQbovREN MUCHbovTIbovNTUUbovMBAA SEVENbovSAQbovFAAbotE NDAPbovTOONbovMBEUMb",
     "ovLAPbovVOMbovLOONbovPAAbovSOMbovRAQbovNSHUOPbowDUNbovPUAEbovTAMbovNGKAbovKPEUXbovWUObovSEEbovNG",
     "GEUAETbovPAAMbovTOObovKUOPbovLOMbovNSHIEEbowGOPbovMAEMbovNGKEUXboxOQbowSHUEbovRIMGBAbovNJEUXbovP",
     "EEMbovSAAbovNGGURAEbovMGBAbovGHEUXbovNGKEUAEMbowJAEMLIbovMAPbovLOOTbovNGGEEEEbowDIQbovTAEN NTEUM",
     "bovSETbovPUMbovNDAA SOFTNESSbowGGUAESHAE NYAMbovYIEEbovGHEUNbovTUAEbovYEUAEbovPObovTUMAEbovKEUAE",
     "bovSUAENbovTEUAEQbovVEUAEbovWEUXbovLAAMbovPUbovTAAQbovGHAAMAEbovNGEUREUTbovSHEUAEQbovMGBENbowBEE",
     "bovNZAQbowKOMbovGBETbovTUMbovKUETbovYAPbovNYI CLEAVERbovYITbovMFEUQbovNDIAQbovPIEEQbovYUEQbovLEU",
     "AEMbovFUEbovGBEUXbovNGKUPbovKETbovMAEbovNGKAAMIbovGHETbovFAbovNTUMbovPEUTbovYEUMbovNGGEUAEbowYI ",
     "BETWEENbowZUQbovPOONbovMIEEbovFUETbovNAEbovMUAEbovGHEUAEbovFU IbovMVIbovPUAQbovNGKUMbovKUTbovPIE",
     "TbovNTAPbovYEUAETbovNGGUPbovPA PEOPLEbovFU CALLbowOMbovNJEEbovAbovTOQbovObovIbovLAQbovPA PLURALb",
     "ovTAAboxQbovNDAA MY HOUSEbovSHIQbovYEUXbovNGUAEbovYUAENbowOQ SWIMMINGbozCOVERbowUQboxNbovKEUXbov",
     "PEUXbovNJEE EPOCHbovPUEbovWUEbovFEEbovVEEbovLUbovMIbovREUXbowAEbovNGUAETboxAbovSHOboyQbovFU REME",
     "DYbovNAbovPIbovLOQbovKObovMENbowAboxQbovTEUbovKIbovMONbovTENbovFAQbovGHOMbotF KAbovUbovKUbovEEbo",
     "vREEbovTAEbovNYIbovLAbovRIIboxEEbovMEEEEbovTAAbovNDAAbowJAEMbovMbovSUUbowHIIbowIbowEUXbovKYEEbow",
     "ETbovNUAEboxbowJUAEbovYOQbovSHUbovYAbovNSHAbovPEUXbovNTEEbovWUEbovPEEbovRUbovNIbovREUXbovKENbovN",
     "GKWAENboxGAbovSHObovPUAEbovFOMbovWAbovLIbowOQbovKObovMBENbovRENbovMAbowObowBAAbovTETbovKPAbovSAM",
     "BAbovVUEQiMRO LETTER TAbyNGIbyYObyMIMbyBAbyDAbyAbyPHIbyKHAIbyHAObyDAIbyCHUbyKEAAEbyOLbyMAEMbyNIN",
     "byPAbyOObzbyRObySHIbyTHEAbyEAbyWAbyEbyKObyLANbonbyHAIbyRIbyTEKcrDIGIT ZERObxONEbxTWObyHREEbxFOUR",
     "byIVEbxSIXbyEVENbxEIGHTbxNINEfsANDAbsOUBLE DANDAbTANGSA LETTER OZbopCbopQbopXbooAZbopCbopQbopXbo",
     "oVZbopCbopQbopXbooEZbopCbopQbopXbooIZbopCbopQbopXbooUZbopCbopQbopXbooAWZboqCboqQboqXbooUIZboqCbo",
     "qQboqXbooFINAL NGbooLONG UEXbooSHORT UEZbouAWXbooUECboqZboqQboqXbopIUZborCborQborXbooMZbopCbopQb",
     "opXbooKAbopHAbooGAbooNGAbooSAbooYAbooWAbooPAbooNYAbooPHAbooBAbooMAbooNAbooHAbooLAbooHTAbooTAbooD",
     "AbooRAbooNHAbooSHAbooCAbooTSAbooGHAbooHTTAbooTHAbooXAbooFAbooDHAbooCHAbooZAcuDIGIT ZERObonONEbon",
     "TWObooHREEbonFOURbooIVEbonSIXbooEVENbonEIGHTbonNINEhBASSA VAH LETTER ENNIborKAborSEborFAborMBEbo",
     "rYIEborGAHborDHIIborKPAHborJOborHWAHborWAborZOborGBUborDOborCEborUWUborTOborBAborVUborYEINborPAb",
     "orWADDAborAborObosOborUborEEbosborIdxCOMBINING HIGH TONEbouLOW TONEbouMID TONEbouLOW-MID TONEbou",
     "HIGH-LOW TONEbxFULL STOPlPAHAWH HMONG VOWEL KEEBbowVbouIBbovVbouAUBbowVbouUBbovVbouEBbovVbouAIBb",
     "owVbouOOBbowVbouAWBbowVbouUABbowVbouOBbovVbouIABbowVbouABbovVbouWBbovVbouAABbowVbonCONSONANT VAU",
     "boxNTSAUboxLAUboxHAUboxNLAUboxRAUboxNKAUboxQHAUboxYAUboxHLAUboxMAUboxCHAUboxNCHAUboxHNAUboxPLHAU",
     "boxNTHAUboyAUboxAUboxXAUboxCAUbonMARK CIM TUBbowSObowKESboxHAVbowSUAMbowHOMbowTAUMbonSIGN VOS TH",
     "OMboxSHAB CEEBbosCIM CHEEMbosVOS THIABbowFEEMbosXYEEM NTXIVboyRHOboyTOVboyFAIBbosVOS SEEVbosMEEJ",
     " SUABbosVOS NRUAbosIB YAMbosXAUSbosCIM TSOV ROGlonDIGIT ZERObotONEbotTWObouHREEbotFOURbouIVEbotS",
     "IXbouEVENbotEIGHTbotNINEconNUMBER TENSbouHUNDREDSbouTEN THOUSANDSbouMILLIONSbouHUNDRED MILLIONSb",
     "ouTEN BILLIONSbovRILLIONSconSIGN VOS LUBbosXYOObosHLIbosTHIRD-STAGE HLIbosZWJ THAJbosHNUBbosNQIG",
     "bosXIABbosNTUJbosAVbosTXHEEJ CEEVbosMEEJ TSEEBbosTAUbosLOSbosMUSbosCIM HAIS LUS NTOG NTOGbowCUAM",
     " TSHOOJbowTXWVbpn CHWVbowPUB DAWBbowNRES TOSgonCLAN SIGN TSHEEJboxYEEGboxLISboyAUJboxXYOOJboxKOO",
     "boxHAWJboxMUASboxTHOJboySABboxPHABboxKHABboxHAMboxVAJboxFAJboxYAJboxTSWBboxKWMboxVWJebaMEDEFAIDR",
     "IN CAPITAL LETTER MbpoSbpoVbpoWbpoATIUbpoZbpoKPbpoPbpoTbpoGbpoFbpoIbpoKbpoAbpoJbpoEbpoBbpoCbpoUb",
     "poYUbpoLbpoQbpoHPbpoNYbpoXbpoDbpoOEbpoNbpoRbpoObpoAIbpoYbzSMALL LETTER MbozSbozVbozWbozATIUbozZb",
     "ozKPbozPbozTbozGbozFbozIbozKbozAbozJbozEbozBbozCbozUbozYUbozLbozQbozHPbozNYbozXbozDbozOEbozNbozR",
     "bozObozAIbozYbzDIGIT ZERObosONEbosTWObotHREEbosFOURbotIVEbosSIXbotEVENbosEIGHTbosNINEbzNUMBER TE",
     "NbotELEVENbotTWELVEbouHIRTEENbotFOURTEENbouIFTEENbotSIXTEENbouEVENTEENbotEIGHTEENbotNINETEENbzDI",
     "GIT ONE ALTERNATE FORMbosTWO ALTERNATE FORMbotHREE ALTERNATE FORMbzCOMMAbzFULL STOPbzSYMBOL AIVA",
     "bzEXCLAMATION OHhloIAO LETTER PAbzBAbzYI PAbzPLAbzMAbonHAbzARCHAIC MAbzFAbzVAbonFAbzTAbzDAbzYI T",
     "TAboqAbzTTAbzDDAbzNAbonHAbzYI NNAbzARCHAIC NAbzNNAbooHAbzLAbonYAbonHAbooYAbzTLHAbzDLHAbzTLHYAbzD",
     "LHYAbzKAbzGAbzYI KAbzQAbonGAbzNGAbooHAbzARCHAIC NGAbzHAbzXAbzGHAbooHAbzTSSAbzDZZAbzNYAbooHAbzTSH",
     "AbzDZHAbzYI TSHAbopDZHAbzREFORMED TSHAbzSHAbonSAbzZHAbonSHAbzTSAbzDZAbzYI TSAbzSAbzZAbonSAbonZAb",
     "ooSAbzARCHAIC ZZAbzZZYAbooSYAbzWAbzAHbzHHAbzBRIbzSYIbzDZYIbzTEbonSEbzRTEfsSIGN CONSONANT MODIFIE",
     "R BARbsLETTER NASALIZATIONbsSIGN ASPIRATIONbxREFORMED VOICINGbotASPIRATIONbsVOWEL SIGN AborAborH",
     "HborNbosGboqOborOboqWOborboqEborNbosGboqOEYboqIborAbosNbotGborOborEborIborUborNGboqUborAbosNbotG",
     "borUborEIborNGboqYborIboqAEbosEboqERRboqROUNDED ERRboqERboqROUNDED ERboqAIboqEIboqAUboqOUboqNbor",
     "GboqUOGboqYUIboqOGborERboqVWboqIGboqEAboqIONGboqUIisTONE RIGHTbxTOP RIGHTbxABOVEbxBELOWbsLETTER ",
     "TONE-2bor3bor4bor5bor6bor7bor8bzREFORMED TONE-1bpn2bpn4bpn5bpn6bpn8faTANGUT ITERATION MARKbNUSHU",
     " ITERATION MARKbOLD CHINESE HOOK MARKbzITERATION MARKbKHITAN SMALL SCRIPT FILLERmVIETNAMESE ALTE",
     "RNATE READING MARK CAbpvNHAYckfkTANGUT COMPONENT-001bot2bot3bot4bot5bot6bot7bot8bot9bos10bot1bot",
     "2bot3bot4bot5bot6bot7bot8bot9bos20bot1bot2bot3bot4bot5bot6bot7bot8bot9bos30bot1bot2bot3bot4bot5b",
     "ot6bot7bot8bot9bos40bot1bot2bot3bot4bot5bot6bot7bot8bot9bos50bot1bot2bot3bot4bot5bot6bot7bot8bot",
     "9bos60bot1bot2bot3bot4bot5bot6bot7bot8bot9bos70bot1bot2bot3bot4bot5bot6bot7bot8bot9bos80bot1bot2",
     "bot3bot4bot5bot6bot7bot8bot9bos90bot1bot2bot3bot4bot5bot6bot7bot8bot9bor100bot1bot2bot3bot4bot5b",
     "ot6bot7bot8bot9bos10bot1bot2bot3bot4bot5bot6bot7bot8bot9bos20bot1bot2bot3bot4bot5bot6bot7bot8bot",
     "9bos30bot1bot2bot3bot4bot5bot6bot7bot8bot9bos40bot1bot2bot3bot4bot5bot6bot7bot8bot9bos50bot1bot2",
     "bot3bot4bot5bot6bot7bot8bot9bos60bot1bot2bot3bot4bot5bot6bot7bot8bot9bos70bot1bot2bot3bot4bot5bo",
     "t6bot7bot8bot9bos80bot1bot2bot3bot4bot5bot6bot7bot8bot9bos90bot1bot2bot3bot4bot5bot6bot7bot8bot9",
     "bor200bot1bot2bot3bot4bot5bot6bot7bot8bot9bos10bot1bot2bot3bot4bot5bot6bot7bot8bot9bos20bot1bot2",
     "bot3bot4bot5bot6bot7bot8bot9bos30bot1bot2bot3bot4bot5bot6bot7bot8bot9bos40bot1bot2bot3bot4bot5bo",
     "t6bot7bot8bot9bos50bot1bot2bot3bot4bot5bot6bot7bot8bot9bos60bot1bot2bot3bot4bot5bot6bot7bot8bot9",
     "bos70bot1bot2bot3bot4bot5bot6bot7bot8bot9bos80bot1bot2bot3bot4bot5bot6bot7bot8bot9bos90bot1bot2b",
     "ot3bot4bot5bot6bot7bot8bot9bor300bot1bot2bot3bot4bot5bot6bot7bot8bot9bos10bot1bot2bot3bot4bot5bo",
     "t6bot7bot8bot9bos20bot1bot2bot3bot4bot5bot6bot7bot8bot9bos30bot1bot2bot3bot4bot5bot6bot7bot8bot9",
     "bos40bot1bot2bot3bot4bot5bot6bot7bot8bot9bos50bot1bot2bot3bot4bot5bot6bot7bot8bot9bos60bot1bot2b",
     "ot3bot4bot5bot6bot7bot8bot9bos70bot1bot2bot3bot4bot5bot6bot7bot8bot9bos80bot1bot2bot3bot4bot5bot",
     "6bot7bot8bot9bos90bot1bot2bot3bot4bot5bot6bot7bot8bot9bor400bot1bot2bot3bot4bot5bot6bot7bot8bot9",
     "bos10bot1bot2bot3bot4bot5bot6bot7bot8bot9bos20bot1bot2bot3bot4bot5bot6bot7bot8bot9bos30bot1bot2b",
     "ot3bot4bot5bot6bot7bot8bot9bos40bot1bot2bot3bot4bot5bot6bot7bot8bot9bos50bot1bot2bot3bot4bot5bot",
     "6bot7bot8bot9bos60bot1bot2bot3bot4bot5bot6bot7bot8bot9bos70bot1bot2bot3bot4bot5bot6bot7bot8bot9b",
     "os80bot1bot2bot3bot4bot5bot6bot7bot8bot9bos90bot1bot2bot3bot4bot5bot6bot7bot8bot9bor500bot1bot2b",
     "ot3bot4bot5bot6bot7bot8bot9bos10bot1bot2bot3bot4bot5bot6bot7bot8bot9bos20bot1bot2bot3bot4bot5bot",
     "6bot7bot8bot9bos30bot1bot2bot3bot4bot5bot6bot7bot8bot9bos40bot1bot2bot3bot4bot5bot6bot7bot8bot9b",
     "os50bot1bot2bot3bot4bot5bot6bot7bot8bot9bos60bot1bot2bot3bot4bot5bot6bot7bot8bot9bos70bot1bot2bo",
     "t3bot4bot5bot6bot7bot8bot9bos80bot1bot2bot3bot4bot5bot6bot7bot8bot9bos90bot1bot2bot3bot4bot5bot6",
     "bot7bot8bot9bor600bot1bot2bot3bot4bot5bot6bot7bot8bot9bos10bot1bot2bot3bot4bot5bot6bot7bot8bot9b",
     "os20bot1bot2bot3bot4bot5bot6bot7bot8bot9bos30bot1bot2bot3bot4bot5bot6bot7bot8bot9bos40bot1bot2bo",
     "t3bot4bot5bot6bot7bot8bot9bos50bot1bot2bot3bot4bot5bot6bot7bot8bot9bos60bot1bot2bot3bot4bot5bot6",
     "bot7bot8bot9bos70bot1bot2bot3bot4bot5bot6bot7bot8bot9bos80bot1bot2bot3bot4bot5bot6bot7bot8bot9bo",
     "s90bot1bot2bot3bot4bot5bot6bot7bot8bot9bor700bot1bot2bot3bot4bot5bot6bot7bot8bot9bos10bot1bot2bo",
     "t3bot4bot5bot6bot7bot8bot9bos20bot1bot2bot3bot4bot5bot6bot7bot8bot9bos30bot1bot2bot3bot4bot5bot6",
     "bot7bot8bot9bos40bot1bot2bot3bot4bot5bot6bot7bot8bot9bos50bot1bot2bot3bot4bot5bot6bot7bot8bot9bo",
     "s60bot1bot2bot3bot4bot5bot6bot7bot8bKHITAN SMALL SCRIPT CHARACTER-18B00bpv1bpv2bpv3bpv4bpv5bpv6b",
     "pv7bpv8bpv9bpvAbpvBbpvCbpvDbpvEbpvFbpu10bpv1bpv2bpv3bpv4bpv5bpv6bpv7bpv8bpv9bpvAbpvBbpvCbpvDbpvE",
     "bpvFbpu20bpv1bpv2bpv3bpv4bpv5bpv6bpv7bpv8bpv9bpvAbpvBbpvCbpvDbpvEbpvFbpu30bpv1bpv2bpv3bpv4bpv5bp",
     "v6bpv7bpv8bpv9bpvAbpvBbpvCbpvDbpvEbpvFbpu40bpv1bpv2bpv3bpv4bpv5bpv6bpv7bpv8bpv9bpvAbpvBbpvCbpvDb",
     "pvEbpvFbpu50bpv1bpv2bpv3bpv4bpv5bpv6bpv7bpv8bpv9bpvAbpvBbpvCbpvDbpvEbpvFbpu60bpv1bpv2bpv3bpv4bpv",
     "5bpv6bpv7bpv8bpv9bpvAbpvBbpvCbpvDbpvEbpvFbpu70bpv1bpv2bpv3bpv4bpv5bpv6bpv7bpv8bpv9bpvAbpvBbpvCbp",
     "vDbpvEbpvFbpu80bpv1bpv2bpv3bpv4bpv5bpv6bpv7bpv8bpv9bpvAbpvBbpvCbpvDbpvEbpvFbpu90bpv1bpv2bpv3bpv4",
     "bpv5bpv6bpv7bpv8bpv9bpvAbpvBbpvCbpvDbpvEbpvFbpuA0bpv1bpv2bpv3bpv4bpv5bpv6bpv7bpv8bpv9bpvAbpvBbpv",
     "CbpvDbpvEbpvFbpuB0bpv1bpv2bpv3bpv4bpv5bpv6bpv7bpv8bpv9bpvAbpvBbpvCbpvDbpvEbpvFbpuC0bpv1bpv2bpv3b",
     "pv4bpv5bpv6bpv7bpv8bpv9bpvAbpvBbpvCbpvDbpvEbpvFbpuD0bpv1bpv2bpv3bpv4bpv5bpv6bpv7bpv8bpv9bpvAbpvB",
     "bpvCbpvDbpvEbpvFbpuE0bpv1bpv2bpv3bpv4bpv5bpv6bpv7bpv8bpv9bpvAbpvBbpvCbpvDbpvEbpvFbpuF0bpv1bpv2bp",
     "v3bpv4bpv5bpv6bpv7bpv8bpv9bpvAbpvBbpvCbpvDbpvEbpvFbptC00bpv1bpv2bpv3bpv4bpv5bpv6bpv7bpv8bpv9bpvA",
     "bpvBbpvCbpvDbpvEbpvFbpu10bpv1bpv2bpv3bpv4bpv5bpv6bpv7bpv8bpv9bpvAbpvBbpvCbpvDbpvEbpvFbpu20bpv1bp",
     "v2bpv3bpv4bpv5bpv6bpv7bpv8bpv9bpvAbpvBbpvCbpvDbpvEbpvFbpu30bpv1bpv2bpv3bpv4bpv5bpv6bpv7bpv8bpv9b",
     "pvAbpvBbpvCbpvDbpvEbpvFbpu40bpv1bpv2bpv3bpv4bpv5bpv6bpv7bpv8bpv9bpvAbpvBbpvCbpvDbpvEbpvFbpu50bpv",
     "1bpv2bpv3bpv4bpv5bpv6bpv7bpv8bpv9bpvAbpvBbpvCbpvDbpvEbpvFbpu60bpv1bpv2bpv3bpv4bpv5bpv6bpv7bpv8bp",
     "v9bpvAbpvBbpvCbpvDbpvEbpvFbpu70bpv1bpv2bpv3bpv4bpv5bpv6bpv7bpv8bpv9bpvAbpvBbpvCbpvDbpvEbpvFbpu80",
     "bpv1bpv2bpv3bpv4bpv5bpv6bpv7bpv8bpv9bpvAbpvBbpvCbpvDbpvEbpvFbpu90bpv1bpv2bpv3bpv4bpv5bpv6bpv7bpv",
     "8bpv9bpvAbpvBbpvCbpvDbpvEbpvFbpuA0bpv1bpv2bpv3bpv4bpv5bpv6bpv7bpv8bpv9bpvAbpvBbpvCbpvDbpvEbpvFbp",
     "uB0bpv1bpv2bpv3bpv4bpv5bpv6bpv7bpv8bpv9bpvAbpvBbpvCbpvDbpvEbpvFbpuC0bpv1bpv2bpv3bpv4bpv5bpv6bpv7",
     "bpv8bpv9bpvAbpvBbpvCbpvDbpvEbpvFbpuD0bpv1bpv2bpv3bpv4bpv5ebceoATAKANA LETTER MINNAN TONE-2bpp3bp",
     "p4bpp5cpp7bpp8boxNASALIZED TONE-1bpz2bpz3bpz4bpz5cpz7bpz8coqARCHAIC EbHIRAGANA LETTER ARCHAIC YE",
     "boENTAIGANA LETTER A-1bou2bou3bouWObosI-1bou2bou3bou4bosU-1bou2bou3bou4bou5bosE-2bou3bou4bou5bou",
     "6bosO-1bou2bou3bosKA-1bov2bov3bov4bov5bov6bov7bov8bov9bov10bow1bovKEbotI-1bov2bov3bov4bov5bov6bo",
     "v7bov8botU-1bov2bov3bov4bov5bov6bov7botE-1bov2bov3bov4bov5bov6botO-1bov2bov3bovKIbosSA-1bov2bov3",
     "bov4bov5bov6bov7bov8botI-1bov2bov3bov4bov5bov6botU-1bov2bov3bov4bov5bov6bov7bov8botE-1bov2bov3bo"]

def characterNameRecordsPart11 : String :=
  String.join
    ["v4bov5botO-1bov2bov3bov4bov5bov6bov7bosTA-1bov2bov3bov4botI-1bov2bov3bov4bov5bov6bov7botU-1bov2b",
     "ov3bov4bovTObotE-1bov2bov3bov4bov5bov6bov7bov8bov9botO-1bov2bov3bov4bov5bov6bovRAbosNA-1bov2bov3",
     "bov4bov5bov6bov7bov8bov9botI-1bov2bov3bov4bov5bov6bov7bovTEbotU-1bov2bov3botE-1bov2bov3bov4bov5b",
     "ov6bovKObotO-1bov2bov3bov4bov5bosHA-1bov2bov3bov4bov5bov6bov7bov8bov9bov10bow1botI-1bov2bov3bov4",
     "bov5bov6bov7botU-1bov2bov3botE-1bov2bov3bov4bov5bov6bov7botO-1bov2bov3bov4bov5bov6bov7bov8bosMA-",
     "1bov2bov3bov4bov5bov6bov7botI-1bov2bov3bov4bov5bov6bov7botU-1bov2bov3bov4botE-1bov2bovMAbotO-1bo",
     "v2bov3bov4bov5bov6bosYA-1bov2bov3bov4bov5bovYObotU-1bov2bov3bov4botO-1bov2bov3bov4bov5bov6bosRA-",
     "1bov2bov3bov4botI-1bov2bov3bov4bov5bov6bov7botU-1bov2bov3bov4bov5bov6botE-1bov2bov3bov4botO-1bov",
     "2bov3bov4bov5bov6bosWA-1bov2bov3bov4bov5botI-1bov2bov3bov4bov5botE-1bov2bov3bov4botO-1bov2bov3bo",
     "v4bov5bov6bov7bosN-MU-MO-1bpn2boIRAGANA LETTER ARCHAIC WUbKATAKANA LETTER ARCHAIC YIbozEboyWUdhH",
     "IRAGANA LETTER SMALL WIboxEboxObfKATAKANA LETTER SMALL WIboxEboxObowNjNUSHU CHARACTER-1B170bou1b",
     "ou2bou3bou4bou5bou6bou7bou8bou9bouAbouBbouCbouDbouEbouFbot80bou1bou2bou3bou4bou5bou6bou7bou8bou9",
     "bouAbouBbouCbouDbouEbouFbot90bou1bou2bou3bou4bou5bou6bou7bou8bou9bouAbouBbouCbouDbouEbouFbotA0bo",
     "u1bou2bou3bou4bou5bou6bou7bou8bou9bouAbouBbouCbouDbouEbouFbotB0bou1bou2bou3bou4bou5bou6bou7bou8b",
     "ou9bouAbouBbouCbouDbouEbouFbotC0bou1bou2bou3bou4bou5bou6bou7bou8bou9bouAbouBbouCbouDbouEbouFbotD",
     "0bou1bou2bou3bou4bou5bou6bou7bou8bou9bouAbouBbouCbouDbouEbouFbotE0bou1bou2bou3bou4bou5bou6bou7bo",
     "u8bou9bouAbouBbouCbouDbouEbouFbotF0bou1bou2bou3bou4bou5bou6bou7bou8bou9bouAbouBbouCbouDbouEbouFb",
     "os200bou1bou2bou3bou4bou5bou6bou7bou8bou9bouAbouBbouCbouDbouEbouFbot10bou1bou2bou3bou4bou5bou6bo",
     "u7bou8bou9bouAbouBbouCbouDbouEbouFbot20bou1bou2bou3bou4bou5bou6bou7bou8bou9bouAbouBbouCbouDbouEb",
     "ouFbot30bou1bou2bou3bou4bou5bou6bou7bou8bou9bouAbouBbouCbouDbouEbouFbot40bou1bou2bou3bou4bou5bou",
     "6bou7bou8bou9bouAbouBbouCbouDbouEbouFbot50bou1bou2bou3bou4bou5bou6bou7bou8bou9bouAbouBbouCbouDbo",
     "uEbouFbot60bou1bou2bou3bou4bou5bou6bou7bou8bou9bouAbouBbouCbouDbouEbouFbot70bou1bou2bou3bou4bou5",
     "bou6bou7bou8bou9bouAbouBbouCbouDbouEbouFbot80bou1bou2bou3bou4bou5bou6bou7bou8bou9bouAbouBbouCbou",
     "DbouEbouFbot90bou1bou2bou3bou4bou5bou6bou7bou8bou9bouAbouBbouCbouDbouEbouFbotA0bou1bou2bou3bou4b",
     "ou5bou6bou7bou8bou9bouAbouBbouCbouDbouEbouFbotB0bou1bou2bou3bou4bou5bou6bou7bou8bou9bouAbouBbouC",
     "bouDbouEbouFbotC0bou1bou2bou3bou4bou5bou6bou7bou8bou9bouAbouBbouCbouDbouEbouFbotD0bou1bou2bou3bo",
     "u4bou5bou6bou7bou8bou9bouAbouBbouCbouDbouEbouFbotE0bou1bou2bou3bou4bou5bou6bou7bou8bou9bouAbouBb",
     "ouCbouDbouEbouFbotF0bou1bou2bou3bou4bou5bou6bou7bou8bou9bouAbouBbaiiDUPLOYAN LETTER HboqXboqPboq",
     "TboqFboqKboqLboqBboqDboqVboqGboqRboqP NboqD SboqF NboqK MboqR SboqTHboqSLOAN DHboqDHboqKKboqSLOA",
     "N JboqHLboqLHboqRHboqMboqNboqJboqSboqM NboqN MboqJ MboqS JboqM WITH DOTboqN WITH DOTboqJ WITH DO",
     "TbpnS INSIDE AND ABOVEboqS WITH DOTbpn BELOWboqM SboqN SboqJ SboqS SboqM N SboqN M SboqJ M SboqS",
     " J SboqJ S WITH DOTbosNbot SboqS Tbot RbosPbot RboqT SbosR SboqWborHbor RboqS NbosMboqK R SboqG ",
     "R SboqS Kbot RboqAboqSLOAN OWboqOAborboqAOUboqIboqEboqIEboqSHORT IboqUIboqEEboqSLOAN EHboqROMANI",
     "AN IboqSLOAN EEboqLONG IboqYEboqUboqEUboqXWboqU NboqLONG UboqROMANIAN UboqUHboqSLOAN UboqOOHborW",
     "borUboqWAborOborIborEIborOWboqNASAL UbowObowIbowAboqPERNIN ANboyMboqSLOAN ENbowANbowONboqVOCALIC",
     " MgwAFFIX LEFT HORIZONTAL SECANTbopMID HORIZONTAL SECANTbopRIGHT HORIZONTAL SECANTbopLOW VERTICA",
     "L SECANTbopMID VERTICAL SECANTbopHIGH VERTICAL SECANTbopATTACHED SECANTboyLEFT-TO-RIGHT SECANTbo",
     "yTANGENTbpnILboyE HOOKboyI HOOKboyTANGENT HOOKeopHIGH ACUTEbouTIGHT ACUTEbouGRAVEbouLONG GRAVEbo",
     "uDOTbouCIRCLEbouLINEbouWAVEbouVERTICALiopLOW ACUTEbotTIGHT ACUTEbotGRAVEbotLONG GRAVEbotDOTbotCI",
     "RCLEbotLINEbotWAVEbotVERTICALbotARROWdwSIGN O WITH CROSSbwTHICK LETTER SELECTORbwDOUBLE MARKbwPU",
     "NCTUATION CHINOOK FULL STOPbSHORTHAND FORMAT LETTER OVERLAPborCONTINUING OVERLAPborDOWN STEPborU",
     "P STEPcbkiZNAMENNY COMBINING MARK GORAZDO NIZKO S KRYZHEM ON LEFTboyNIZKO S KRYZHEM ON LEFTboyTS",
     "ATA ON LEFTboyGORAZDO NIZKO ON LEFTboyNIZKO ON LEFTboySREDNE ON LEFTboyMALO POVYSHE ON LEFTboyPO",
     "VYSHE ON LEFTboyVYSOKO ON LEFTboyMALO POVYSHE S KHOKHLOM ON LEFTboyPOVYSHE S KHOKHLOM ON LEFTboy",
     "VYSOKO S KHOKHLOM ON LEFTboyGORAZDO NIZKO S KRYZHEM ON RIGHTboyNIZKO S KRYZHEM ON RIGHTboyTSATA ",
     "ON RIGHTboyGORAZDO NIZKO ON RIGHTboyNIZKO ON RIGHTboySREDNE ON RIGHTboyMALO POVYSHE ON RIGHTboyP",
     "OVYSHE ON RIGHTboyVYSOKO ON RIGHTboyMALO POVYSHE S KHOKHLOM ON RIGHTboyPOVYSHE S KHOKHLOM ON RIG",
     "HTboyVYSOKO S KHOKHLOM ON RIGHTboyTSATA S KRYZHEMboyMALO POVYSHE S KRYZHEMboySTRANNO MALO POVYSH",
     "EboyPOVYSHE S KRYZHEMbpuTRANNOboyVYSOKO S KRYZHEMboyMALO POVYSHE STRANNOboyGORAZDO VYSOKOboyZELO",
     "boyONboyRAVNOboyTIKHAYAboyBORZAYAboyUDARKAboyPODVERTKAboyLOMKAboyKUPNAYAbozACHKAboyZEVOKboySKOBA",
     "boyRAZSEKAboyKRYZH ON LEFTdotTONAL RANGE MARK MRACHNObpxSVETLObpxTRESVETLObotMARK ZADERZHKAboyDE",
     "MESTVENNY ZADERZHKAboyOTSECHKAboyPODCHASHIEbpv WITH VERTICAL STROKEboyCHASHKAbps POLNAYAboyOBLAC",
     "HKOboySOROCHYA NOZHKAboyTOCHKAboyDVOETOCHIEbotATTACHING VERTICAL OMETbotMARK CURVED OMETboyKRYZH",
     "botLOWER TONAL RANGE INDICATORbwPRIZNAK MODIFIER LEVEL-2bpt3bpnDIRECTION FLIPbpnKRYZHbpnROGkwNEU",
     "ME KRYUKbou TIKHYbopPARAKLITbopDVA V CHELNUbopKLYUCHbopZANOZHEKbopSTOPITSAbox S OCHKOMbopPEREVOD",
     "KAboy NEPOSTOYANNAYAbopSTOPITSA WITH SOROCHYA NOZHKAbopCHELYUSTKAbopPALKAbopZAPYATAYAbopGOLUBCHI",
     "K BORZYbozTIKHYbozMRACHNYbozSVETLYbozTRESVETLYbopVRAKHIYA PROSTAYAboyMRACHNAYAboySVETLAYAboyTRES",
     "VETLAYAboyKLYUCHEVAYA PROSTAYAbpxMRACHNAYAbpxSVETLAYAbpxTRESVETLAYAbopDOUBLE ZAPYATAYAbopREVERSE",
     "D CHELYUSTKAbopDERBITSAbopKHAMILObopCHASHKAbopPODCHASHIEbopSKAMEYTSA MRACHNAYAbozSVETLAYAbozTRES",
     "VETLAYAbpnIKHAYAbopDEMESTVENNY KLYUCHbopSKAMEYTSA KLYUCHEVAYA SVETLAYAbptNEPOSTOYANNAYAbptVAYA T",
     "IKHAYAbozDVOECHELNAYA PROSTAYAbpzSVETLAYAbpzNEPOSTOYANNAYAbpzKLYUCHEVAYAboqLOZHITIEboy S ZAPYATO",
     "YbozZAKRYTOEbozS KRYZHEMbopKRYZHbopROGbopFITAbopKOBYLAbopZMEYTSAbopSTATYAbov S ZAPYATOYboyKRYZHE",
     "MboyZAPYATOY I KRYZHEMboyKRYZHEM I ZAPYATOYbowZAKRYTAYAbps S ZAPYATOYbowS ROGOMboyDVUMYA ZAPYATY",
     "MIboyZAPYATOY I PODCHASHIEMbopPOLKULIZMYbopSTATYA NEPOSTOYANNAYAborRELA PROSTAYAbowMRACHNOTIKHAY",
     "AbowKRYZHEVAYAbowPOLUPOVODNAYAboyVODNAYAbowNEPOSTOYANNAYAbowKLYUCHEPOVODNAYAbpqNEPOSTOYANNAYAbow",
     "TIKHAYA PUTNAYAbowDVOECHELNAYAbpsOKRYZHEVAYAbptPOVODNAYAbpsAYA KLYUCHEVAYAbpsOPOVODNAYA KLYUCHEV",
     "AYAbowGROMNAYA WITH SINGLE ZAPYATAYAbpnOPOVODNAYA WITH SINGLE ZAPYATAYAbpnNAYAbpnOPOVODNAYAbpx W",
     "ITH DOUBLE ZAPYATAYAbpoKRYZHEVAYAbpy POVODNAYAbopMECHIKbov POVODNYbowKLYUCHEVOYbpqPOVODNYbpqNEPO",
     "STOYANNYbopSTRELA TRYASOGLASNAYAbppPOVODNAYAbppSTRELNAYAbopOSOKAbou SVETLAYAbovTRESVETLAYAbovKRY",
     "UKOVAYA SVETLAYAbowLYUCHEVAYA SVETLAYAbpuNEPOSTOYANNAYAbopSTRELA KRYUKOVAYAbpt POVODNAYAbpuGROMN",
     "AYA WITH SINGLE ZAPYATAYAbpyOPOVODNAYA WITH SINGLE ZAPYATAYAbpyNAYAbpyOPOVODNAYAbqv WITH DOUBLE ",
     "ZAPYATAYAbpzKRYZHEVAYAbqw POVODNAYAbpuTRYASKAbopKUFISMAbopOBLAKObopDUDAbopNEMKAbopPAUKejBYZANTIN",
     "E MUSICAL SYMBOL PSILIbozDASEIAbozPERISPOMENIbozOXEIA EKFONITIKONbpsDIPLIbozVAREIA EKFONITIKONbp",
     "tDIPLIbozKATHISTIbozSYRMATIKIbozPARAKLITIKIbozYPOKRISISbpv DIPLIbozKREMASTIbozAPESO EKFONITIKONb",
     "ozEXO EKFONITIKONbozTELEIAbozKENTIMATAbozAPOSTROFOSbpw DIPLIbozSYNEVMAbozTHITAbozOLIGON ARCHAION",
     "bozGORGON ARCHAIONbozPSILONbozCHAMILONbozVATHYbozISON ARCHAIONbozKENTIMA ARCHAIONbptTA ARCHAIONb",
     "ozSAXIMATAbozPARICHONbozSTAVROS APODEXIAbozOXEIAI ARCHAIONbozVAREIAI ARCHAIONbozAPODERMA ARCHAIO",
     "NbppTHEMAbozKLASMAbozREVMAbozPIASMA ARCHAIONbozTINAGMAbozANATRICHISMAbozSEISMAbpnYNAGMA ARCHAION",
     "bpuMETA STAVROUbozOYRANISMA ARCHAIONbozTHEMAbozLEMOIbozDYObozTRIAbpnESSERAbozKRATIMATAbozAPESO E",
     "XO NEObozFTHORA ARCHAIONbozIMIFTHORAbozTROMIKON ARCHAIONbozKATAVA TROMIKONbozPELASTONbpnSIFISTON",
     "bozKONTEVMAbozCHOREVMA ARCHAIONbozRAPISMAbozPARAKALESMA ARCHAIONbprLITIKI ARCHAIONbozICHADINbozN",
     "ANAbozPETASMAbozKONTEVMA ALLObozTROMIKON ALLObozSTRAGGISMATAbozGRONTHISMATAbozISON NEObozOLIGON ",
     "NEObpnXEIA NEObozPETASTIbozKOUFISMAbozPETASTOKOUFISMAbozKRATIMOKOUFISMAbozPELASTON NEObozKENTIMA",
     "TA NEO ANObpt NEO ANObozYPSILIbozAPOSTROFOS NEObpvI SYNDESMOS NEObozYPORROIbozKRATIMOYPORROONboz",
     "ELAFRONbozCHAMILIbozMIKRON ISONbozVAREIA NEObozPIASMA NEObpnSIFISTON NEObozOMALONbozANTIKENOMAbo",
     "zLYGISMAbozPARAKLITIKI NEObprALESMA NEObozETERON PARAKALESMAbozKYLISMAbozANTIKENOKYLISMAbozTROMI",
     "KON NEObozEKSTREPTONbozSYNAGMA NEObpoRMAbozCHOREVMA NEObozEPEGERMAbozSEISMA NEObozXIRON KLASMAbo",
     "zTROMIKOPSIFISTONbozPSIFISTOLYGISMAbozTROMIKOLYGISMAbptPARAKALESMAbozPSIFISTOPARAKALESMAbozTROMI",
     "KOSYNAGMAbozPSIFISTOSYNAGMAbozGORGOSYNTHETONbozARGOSYNTHETONbozETERON ARGOSYNTHETONbozOYRANISMA ",
     "NEObozTHEMATISMOS ESObpzXObpr APLOUNbppS KAI APOTHESbozKATAVASMAbozENDOFONONbozYFEN KATObprANObo",
     "zSTAVROSbozKLASMA ANObozDIPLI ARCHAIONbozKRATIMA ARCHAIONbpvLLObpuNEObozAPODERMA NEObpoLIbozDIPL",
     "IbozTRIPLIbpnETRAPLIbozKORONISbozLEIMMA ENOS CHRONOUbptDYO CHRONONbptTRION CHRONONbpuESSARON CHR",
     "ONONbptIMISEOS CHRONOUbozGORGON NEO ANObptPARESTIGMENON ARISTERAbquDEXIAbozDIGORGONbpu PARESTIGM",
     "ENON ARISTERA KATObrsANObqwDEXIAbozTRIGORGONbozARGONbozIMIDIARGONbozDIARGONbozAGOGI POLI ARGIbps",
     "ARGOTERIbpvIbpsMETRIAbpuSIbpsGORGIbpwOTERIbpsPOLI GORGIbozMARTYRIA PROTOS ICHOSbpvALLI PROTOS IC",
     "HOSbpvDEYTEROS ICHOSbpvALLI DEYTEROS ICHOSbpvTRITOS ICHOSbpyFONIASbpwETARTOS ICHOSbqrLEGETOS ICH",
     "OSbpvLEGETOS ICHOSbpvPLAGIOS ICHOSbozISAKIA TELOUS ICHIMATOSbozAPOSTROFOI TELOUS ICHIMATOSbozFAN",
     "EROSIS TETRAFONIASbpwMONOFONIASbpwDIFONIASbozMARTYRIA VARYS ICHOSbpvPROTOVARYS ICHOSbpwLAGIOS TE",
     "TARTOS ICHOSbozGORTHMIKON N APLOUNbpzDIPLOUNbozENARXIS KAI FTHORA VOUbozIMIFONONbpqTHORONbozFTHO",
     "RA ARCHAION DEYTEROU ICHOUbptDIATONIKI PAbqqNANAbptNAOS ICHOSbptDIATONIKI DIbptSKLIRON DIATONON ",
     "DIbptDIATONIKI KEbqqZObqqNI KATObqtANObptMALAKON CHROMA DIFONIASbqvMONOFONIASbpnHTORA SKLIRON CH",
     "ROMA VASISbpnTHORA SKLIRON CHROMA SYNAFIbptNENANObozCHROA ZYGOSbpsKLITONbpsSPATHIbozFTHORA I YFE",
     "SIS TETARTIMORIONbptENARMONIOS ANTIFONIAbozYFESIS TRITIMORIONbozDIESIS TRITIMORIONbpuETARTIMORIO",
     "NbptAPLI DYO DODEKATAbptMONOGRAMMOS TESSERA DODEKATAbptDIGRAMMOS EX DODEKATAbptTRIGRAMMOS OKTO D",
     "ODEKATAbozYFESIS APLI DYO DODEKATAbptMONOGRAMMOS TESSERA DODEKATAbptDIGRAMMOS EX DODEKATAbptTRIG",
     "RAMMOS OKTO DODEKATAbozGENIKI DIESISbptYFESISbozDIASTOLI APLI MIKRIbqoEGALIbpvDIPLIbpvTHESEOSboz",
     "SIMANSIS THESEOSbqp DISIMOUbqqTRISIMOUbqrETRASIMOUbpvARSEOSbqo DISIMOUbqpTRISIMOUbqqETRASIMOUboz",
     "DIGRAMMA GGbpoFTOGGOS OUbozSTIGMAbozARKTIKO PAbpuVOUbpuGAbpuDIbpuKEbpuZObpuNIbozKENTIMATA NEO ME",
     "SObpt NEO MESObptTA NEO KATObpt NEO KATObpnLASMA KATObozGORGON NEO KATOlMUSICAL SYMBOL SINGLE BA",
     "RLINEbopDOUBLE BARLINEbopFINAL BARLINEbopREVERSE FINAL BARLINEbopDASHED BARLINEbopSHORT BARLINEb",
     "opLEFT REPEAT SIGNbopRIGHT REPEAT SIGNboqEPEAT DOTSbopDAL SEGNObor CAPObopSEGNObopCODAbopREPEATE",
     "D FIGURE-1bps2bps3bopFERMATAbow BELOWbopBREATH MARKbopCAESURAbopBRACEbotKETbopONE-LINE STAFFbopT",
     "WO-LINE STAFFboqHREE-LINE STAFFbopFOUR-LINE STAFFboqIVE-LINE STAFFbopSIX-LINE STAFFbotSTRING FRE",
     "TBOARDbopFOUR-STRING FRETBOARDbopG CLEFbov OTTAVA ALTAbpqBASSAbopC CLEFbopF CLEFbov OTTAVA ALTAb",
     "pqBASSAbopDRUM CLEF-1boz2dopMULTIPLE MEASURE RESTbopDOUBLE SHARPbowFLATbopFLAT UPbouDOWNbopNATUR",
     "AL UPboxDOWNbopSHARP UPbovDOWNbopQUARTER TONE SHARPbppFLATbopCOMMON TIMEboqUT TIMEbopOTTAVA ALTA",
     "bowBASSAbopQUINDICESIMA ALTAbppBASSAbopMULTI RESTbopWHOLE RESTbopHALF RESTbopQUARTER RESTbopEIGH",
     "TH RESTbopSIXTEENTH RESTbopTHIRTY-SECOND RESTbopSIXTY-FOURTH RESTbopONE HUNDRED TWENTY-EIGHTH RE",
     "STbopX NOTEHEADbopPLUS NOTEHEADbopCIRCLE X NOTEHEADbopSQUARE NOTEHEAD WHITEbpsBLACKbopTRIANGLE N",
     "OTEHEAD UP WHITEbpxBLACKbpuLEFT WHITEbpzBLACKbpuRIGHT WHITEbqnBLACKbpuDOWN WHITEbpzBLACKbpuUP RI",
     "GHT WHITEbqqBLACKbopMOON NOTEHEAD WHITEbpqBLACKbopTRIANGLE-ROUND NOTEHEAD DOWN WHITEbqsBLACKbopP",
     "ARENTHESIS NOTEHEADbopVOID NOTEHEADbopNOTEHEAD BLACKboqULL NOTEHEADbopCLUSTER NOTEHEAD WHITEbptB",
     "LACKbopBREVEbopWHOLE NOTEbopHALF NOTEbopQUARTER NOTEbopEIGHTH NOTEbopSIXTEENTH NOTEbopTHIRTY-SEC",
     "OND NOTEbopSIXTY-FOURTH NOTEbopONE HUNDRED TWENTY-EIGHTH NOTEbopCOMBINING STEMbpnPRECHGESANG STE",
     "MbozTREMOLO-1bpu2bpu3bopFINGERED TREMOLO-1bpt2bpt3bopCOMBINING AUGMENTATION DOTbozFLAG-1bpr2bpr3",
     "bpr4bpr5bopBEGIN BEAMbopEND BEAMbopBEGIN TIEbopEND TIEbopBEGIN SLURbopEND SLURbopBEGIN PHRASEbop",
     "END PHRASEbopCOMBINING ACCENTbozSTACCATObozTENUTObozSTACCATISSIMObozMARCATObpt-STACCATObozACCENT",
     "-STACCATObozLOUREbopARPEGGIATO UPbpnDOWNbopCOMBINING DOITbozRIPbozFLIPbozSMEARbozBENDbozDOUBLE T",
     "ONGUEbozTRIPLE TONGUEbopRINFORZANDObopSUBITObopZbopPIANObopMEZZObopFORTEbopCRESCENDObopDECRESCEN",
     "DObopGRACE NOTE SLASHbpnNO SLASHbopTRboqURNbopINVERTED TURNbopTURN SLASHbouUPbopORNAMENT STROKE-",
     "1bps2bps3bps4bps5bps6bps7bps8bps9bps10bpt1bopHAUPTSTIMMEbopNEBENSTIMMEbopEND OF STIMMEbopDEGREE ",
     "SLASHbopCOMBINING DOWN BOWbozUP BOWbozHARMONICbozSNAP PIZZICATObopPEDAL MARKbovUP MARKbopHALF PE",
     "DAL MARKbopGLISSANDO UPbozDOWNbopWITH FINGERNAILSbopDAMPbot ALLbopMAXIMAbopLONGAbopBREVISbopSEMI",
     "BREVIS WHITEbpnBLACKbopMINIMAbov BLACKbopSEMIMINIMA WHITEbpnBLACKbopFUSA WHITEbouBLACKbopLONGA P",
     "ERFECTA RESTbovIMPERFECTA RESTbopBREVIS RESTbopSEMIBREVIS RESTbopMINIMA RESTbopSEMIMINIMA RESTbo",
     "pTEMPUS PERFECTUM CUM PROLATIONE PERFECTAbqvIMPERFECTAbqvPERFECTA DIMINUTION-1bowIMPERFECTUM CUM",
     " PROLATIONE PERFECTAbqxIMPERFECTAbru DIMINUTION-1bst2bst3bopCROIXbopGREGORIAN C CLEFbozF CLEFbop",
     "SQUARE BbopVIRGAbopPODATUSbopCLIVISbopSCANDICUSbopCLIMACUSbopTORCULUSbopPORRECTUSboy FLEXUSbopSC",
     "ANDICUS FLEXUSbopTORCULUS RESUPINUSbopPES SUBPUNCTISbopKIEVAN C CLEFbowEND OF PIECEbowFINAL NOTE",
     "bowRECITATIVE MARKbowWHOLE NOTEbowHALF NOTEbowQUARTER NOTE STEM DOWNbqoUPbowEIGHTH NOTE STEM DOW",
     "NbqnUPbowFLAT SIGNbopSORIbopKORONbjGREEK VOCAL NOTATION SYMBOL-1bpp2bpp3bpp4bpp5bpp6bpp7bpp8bpp9",
     "bpp10bpq1bpq2bpq3bpq4bpq5bpq6bpq7bpq8bpq9bpp20bpq1bpq2bpq3bpq4bpp50bpq1bpq2bpq3bpq4btINSTRUMENTA",
     "L NOTATION SYMBOL-1bpw2bpw4bpw5bpw7bpw8bpw11bpx2bpx3bpx4bpx7bpx8bpx9bpw23bpx4bpx5bpx6bpx7bpx9bpw",
     "30bpx2bpx6bpx7bpx8bpx9bpw40bpx2bpx3bpx5bpx7bpx8bpx9bpw50bpx1bpx2bpx3bpx4bCOMBINING GREEK MUSICAL",
     " TRISEMEbozETRASEMEboyPENTASEMEbGREEK MUSICAL LEIMMAlmMAYAN NUMERAL ZERObooONEbooTWObopHREEbooFO",
     "URbopIVEbooSIXbopEVENbooEIGHTbooNINEbooTENbooELEVENbooTWELVEbopHIRTEENbooFOURTEENbopIFTEENbooSIX",
     "TEENbopEVENTEENbooEIGHTEENbooNINETEENbaoONOGRAM FOR EARTHbDIGRAM FOR HEAVENLY EARTHbzUMAN EARTHb",
     "yEARTHLY HEAVENbouUMANboqbTETRAGRAM FOR CENTREbooFULL CIRCLEbooMIREDbooBARRIERbooKEEPING SMALLbo",
     "oCONTRARIETYbooASCENTbooOPPOSITIONbooBRANCHING OUTbooDEFECTIVENESS OR DISTORTIONbopIVERGENCEbooY",
     "OUTHFULNESSbooINCREASEbooPENETRATIONbooREACHbooCONTACTbooHOLDING BACKbooWAITINGbooFOLLOWINGbooAD",
     "VANCEbooRELEASEboqSISTANCEbooEASEbooJOYbooCONTENTIONbooENDEAVOURbooDUTIESbooCHANGEbooDECISIVENES",
     "SbooBOLD RESOLUTIONbooPACKINGbooLEGIONbooCLOSENESSbooKINSHIPbooGATHERINGbooSTRENGTHbooPURITYbooF",
     "ULLNESSbooRESIDENCEbooLAW OR MODELbooRESPONSEbooGOING TO MEETbooENCOUNTERSbooSTOVEbooGREATNESSbo",
     "oENLARGEMENTbooPATTERNbooRITUALbooFLIGHTbooVASTNESS OR WASTINGbooCONSTANCYbooMEASUREbooETERNITYb",
     "ooUNITYbooDIMINISHMENTbooCLOSED MOUTHbooGUARDEDNESSbopATHERING INbooMASSINGbooACCUMULATIONbooEMB",
     "ELLISHMENTbooDOUBTbooWATCHbooSINKINGbooINNERbooDEPARTUREbopARKENINGbopIMMINGbooEXHAUSTIONbooSEVE",
     "RANCEbopTOPPAGEbooHARDNESSbooCOMPLETIONbopLOSUREbooFAILUREbooAGGRAVATIONbooCOMPLIANCEbooON THE V",
     "ERGEbooDIFFICULTIESbooLABOURINGbooFOSTERINGkCOUNTING ROD UNIT DIGIT ONEboyTWObozHREEboyFOURbozIV",
     "EboySIXbozEVENboyEIGHTboyNINEbonTENS DIGIT ONEboyTWObozHREEboyFOURbozIVEboySIXbozEVENboyEIGHTboy",
     "NINEbIDEOGRAPHIC TALLY MARK ONEboxTWOboyHREEboxFOURboyIVEbTALLY MARK ONEbyFIVEkgMATHEMATICAL BOL",
     "D CAPITAL AbpnBbpnCbpnDbpnEbpnFbpnGbpnHbpnIbpnJbpnKbpnLbpnMbpnNbpnObpnPbpnQbpnRbpnSbpnTbpnUbpnVb",
     "pnWbpnXbpnYbpnZbosSMALL AboyBboyCboyDboyEboyFboyGboyHboyIboyJboyKboyLboyMboyNboyOboyPboyQboyRboy",
     "SboyTboyUboyVboyWboyXboyYboyZbonITALIC CAPITAL AbppBbppCbppDbppEbppFbppGbppHbppIbppJbppKbppLbppM",
     "bppNbppObppPbppQbppRbppSbppTbppUbppVbppWbppXbppYbppZbouSMALL AbpnBbpnCbpnDbpnEbpnFbpnGcpnIbpnJbp",
     "nKbpnLbpnMbpnNbpnObpnPbpnQbpnRbpnSbpnTbpnUbpnVbpnWbpnXbpnYbpnZbonBOLD ITALIC CAPITAL AbpuBbpuCbp",
     "uDbpuEbpuFbpuGbpuHbpuIbpuJbpuKbpuLbpuMbpuNbpuObpuPbpuQbpuRbpuSbpuTbpuUbpuVbpuWbpuXbpuYbpuZbozSMA",
     "LL AbpsBbpsCbpsDbpsEbpsFbpsGbpsHbpsIbpsJbpsKbpsLbpsMbpsNbpsObpsPbpsQbpsRbpsSbpsTbpsUbpsVbpsWbpsX",
     "bpsYbpsZbonSCRIPT CAPITAL AcppCbppDdppGdppJbppKdppNbppObppPbppQcppSbppTbppUbppVbppWbppXbppYbppZb",
     "ouSMALL AbpnBbpnCbpnDcpnFcpnHbpnIbpnJbpnKbpnLbpnMbpnNcpnPbpnQbpnRbpnSbpnTbpnUbpnVbpnWbpnXbpnYbpn",
     "ZbonBOLD SCRIPT CAPITAL AbpuBbpuCbpuDbpuEbpuFbpuGbpuHbpuIbpuJbpuKbpuLbpuMbpuNbpuObpuPbpuQbpuRbpu",
     "SbpuTbpuUbpuVbpuWbpuXbpuYbpuZbozSMALL AbpsBbpsCbpsDbpsEbpsFbpsGbpsHbpsIbpsJbpsKbpsLbpsMbpsNbpsOb",
     "psPbpsQbpsRbpsSbpsTbpsUbpsVbpsWbpsXbpsYbpsZbonFRAKTUR CAPITAL AbpqBcpqDbpqEbpqFbpqGdpqJbpqKbpqLb",
     "pqMbpqNbpqObpqPbpqQcpqSbpqTbpqUbpqVbpqWbpqXbpqYcovSMALL AbpoBbpoCbpoDbpoEbpoFbpoGbpoHbpoIbpoJbpo",
     "KbpoLbpoMbpoNbpoObpoPbpoQbpoRbpoSbpoTbpoUbpoVbpoWbpoXbpoYbpoZbonDOUBLE-STRUCK CAPITAL AbpwBcpwDb",
     "pwEbpwFbpwGcpwIbpwJbpwKbpwLbpwMcpwOepwSbpwTbpwUbpwVbpwWbpwXbpwYcpoSMALL AbpuBbpuCbpuDbpuEbpuFbpu",
     "GbpuHbpuIbpuJbpuKbpuLbpuMbpuNbpuObpuPbpuQbpuRbpuSbpuTbpuUbpuVbpuWbpuXbpuYbpuZbonBOLD FRAKTUR CAP",
     "ITAL AbpvBbpvCbpvDbpvEbpvFbpvGbpvHbpvIbpvJbpvKbpvLbpvMbpvNbpvObpvPbpvQbpvRbpvSbpvTbpvUbpvVbpvWbp",
     "vXbpvYbpvZbpnSMALL AbptBbptCbptDbptEbptFbptGbptHbptIbptJbptKbptLbptMbptNbptObptPbptQbptRbptSbptT",
     "bptUbptVbptWbptXbptYbptZbonSANS-SERIF CAPITAL AbptBbptCbptDbptEbptFbptGbptHbptIbptJbptKbptLbptMb",
     "ptNbptObptPbptQbptRbptSbptTbptUbptVbptWbptXbptYbptZboySMALL AbprBbprCbprDbprEbprFbprGbprHbprIbpr",
     "JbprKbprLbprMbprNbprObprPbprQbprRbprSbprTbprUbprVbprWbprXbprYbprZboyBOLD CAPITAL AbpyBbpyCbpyDbp",
     "yEbpyFbpyGbpyHbpyIbpyJbpyKbpyLbpyMbpyNbpyObpyPbpyQbpyRbpySbpyTbpyUbpyVbpyWbpyXbpyYbpyZbpqSMALL A",
     "bpwBbpwCbpwDbpwEbpwFbpwGbpwHbpwIbpwJbpwKbpwLbpwMbpwNbpwObpwPbpwQbpwRbpwSbpwTbpwUbpwVbpwWbpwXbpwY",
     "bpwZboyITALIC CAPITAL AbqnBbqnCbqnDbqnEbqnFbqnGbqnHbqnIbqnJbqnKbqnLbqnMbqnNbqnObqnPbqnQbqnRbqnSb",
     "qnTbqnUbqnVbqnWbqnXbqnYbqnZbpsSMALL AbpyBbpyCbpyDbpyEbpyFbpyGbpyHbpyIbpyJbpyKbpyLbpyMbpyNbpyObpy",
     "PbpyQbpyRbpySbpyTbpyUbpyVbpyWbpyXbpyYbpyZboyBOLD ITALIC CAPITAL AbqsBbqsCbqsDbqsEbqsFbqsGbqsHbqs",
     "IbqsJbqsKbqsLbqsMbqsNbqsObqsPbqsQbqsRbqsSbqsTbqsUbqsVbqsWbqsXbqsYbqsZbpxSMALL AbqqBbqqCbqqDbqqEb",
     "qqFbqqGbqqHbqqIbqqJbqqKbqqLbqqMbqqNbqqObqqPbqqQbqqRbqqSbqqTbqqUbqqVbqqWbqqXbqqYbqqZbonMONOSPACE ",
     "CAPITAL AbpsBbpsCbpsDbpsEbpsFbpsGbpsHbpsIbpsJbpsKbpsLbpsMbpsNbpsObpsPbpsQbpsRbpsSbpsTbpsUbpsVbps",
     "WbpsXbpsYbpsZboxSMALL AbpqBbpqCbpqDbpqEbpqFbpqGbpqHbpqIbpqJbpqKbpqLbpqMbpqNbpqObpqPbpqQbpqRbpqSb",
     "pqTbpqUbpqVbpqWbpqXbpqYbpqZbonITALIC SMALL DOTLESS IbpvJdonBOLD CAPITAL ALPHAbpnBETAbpnGAMMAbpnD",
     "ELTAbpnEPSILONbpnZETAbpnETAbpnTHETAbpnIOTAbpnKAPPAbpnLAMDAbpnMUbpnNUbpnXIbpnOMICRONbpnPIbpnRHObp",
     "nTHETA SYMBOLbpnSIGMAbpnTAUbpnUPSILONbpnPHIbpnCHIbpnPSIbpnOMEGAbosNABLAbosSMALL ALPHAboyBETAboyG",
     "AMMAboyDELTAboyEPSILONboyZETAboyETAboyTHETAboyIOTAboyKAPPAboyLAMDAboyMUboyNUboyXIboyOMICRONboyPI",
     "boyRHOboyFINAL SIGMAboySIGMAboyTAUboyUPSILONboyPHIboyCHIboyPSIboyOMEGAbosPARTIAL DIFFERENTIALbos",
     "EPSILON SYMBOLbosTHETA SYMBOLbosKAPPA SYMBOLbosPHI SYMBOLbosRHO SYMBOLbosPI SYMBOLbonITALIC CAPI",
     "TAL ALPHAbppBETAbppGAMMAbppDELTAbppEPSILONbppZETAbppETAbppTHETAbppIOTAbppKAPPAbppLAMDAbppMUbppNU",
     "bppXIbppOMICRONbppPIbppRHObppTHETA SYMBOLbppSIGMAbppTAUbppUPSILONbppPHIbppCHIbppPSIbppOMEGAbouNA",
     "BLAbouSMALL ALPHAbpnBETAbpnGAMMAbpnDELTAbpnEPSILONbpnZETAbpnETAbpnTHETAbpnIOTAbpnKAPPAbpnLAMDAbp",
     "nMUbpnNUbpnXIbpnOMICRONbpnPIbpnRHObpnFINAL SIGMAbpnSIGMAbpnTAUbpnUPSILONbpnPHIbpnCHIbpnPSIbpnOME",
     "GAbouPARTIAL DIFFERENTIALbouEPSILON SYMBOLbouTHETA SYMBOLbouKAPPA SYMBOLbouPHI SYMBOLbouRHO SYMB",
     "OLbouPI SYMBOLbonBOLD ITALIC CAPITAL ALPHAbpuBETAbpuGAMMAbpuDELTAbpuEPSILONbpuZETAbpuETAbpuTHETA",
     "bpuIOTAbpuKAPPAbpuLAMDAbpuMUbpuNUbpuXIbpuOMICRONbpuPIbpuRHObpuTHETA SYMBOLbpuSIGMAbpuTAUbpuUPSIL",
     "ONbpuPHIbpuCHIbpuPSIbpuOMEGAbozNABLAbozSMALL ALPHAbpsBETAbpsGAMMAbpsDELTAbpsEPSILONbpsZETAbpsETA",
     "bpsTHETAbpsIOTAbpsKAPPAbpsLAMDAbpsMUbpsNUbpsXIbpsOMICRONbpsPIbpsRHObpsFINAL SIGMAbpsSIGMAbpsTAUb",
     "psUPSILONbpsPHIbpsCHIbpsPSIbpsOMEGAbozPARTIAL DIFFERENTIALbozEPSILON SYMBOLbozTHETA SYMBOLbozKAP",
     "PA SYMBOLbozPHI SYMBOLbozRHO SYMBOLbozPI SYMBOLbonSANS-SERIF BOLD CAPITAL ALPHAbpyBETAbpyGAMMAbp",
     "yDELTAbpyEPSILONbpyZETAbpyETAbpyTHETAbpyIOTAbpyKAPPAbpyLAMDAbpyMUbpyNUbpyXIbpyOMICRONbpyPIbpyRHO",
     "bpyTHETA SYMBOLbpySIGMAbpyTAUbpyUPSILONbpyPHIbpyCHIbpyPSIbpyOMEGAbpqNABLAbpqSMALL ALPHAbpwBETAbp",
     "wGAMMAbpwDELTAbpwEPSILONbpwZETAbpwETAbpwTHETAbpwIOTAbpwKAPPAbpwLAMDAbpwMUbpwNUbpwXIbpwOMICRONbpw",
     "PIbpwRHObpwFINAL SIGMAbpwSIGMAbpwTAUbpwUPSILONbpwPHIbpwCHIbpwPSIbpwOMEGAbpqPARTIAL DIFFERENTIALb",
     "pqEPSILON SYMBOLbpqTHETA SYMBOLbpqKAPPA SYMBOLbpqPHI SYMBOLbpqRHO SYMBOLbpqPI SYMBOLbpqITALIC CA",
     "PITAL ALPHAbqsBETAbqsGAMMAbqsDELTAbqsEPSILONbqsZETAbqsETAbqsTHETAbqsIOTAbqsKAPPAbqsLAMDAbqsMUbqs",
     "NUbqsXIbqsOMICRONbqsPIbqsRHObqsTHETA SYMBOLbqsSIGMAbqsTAUbqsUPSILONbqsPHIbqsCHIbqsPSIbqsOMEGAbpx",
     "NABLAbpxSMALL ALPHAbqqBETAbqqGAMMAbqqDELTAbqqEPSILONbqqZETAbqqETAbqqTHETAbqqIOTAbqqKAPPAbqqLAMDA",
     "bqqMUbqqNUbqqXIbqqOMICRONbqqPIbqqRHObqqFINAL SIGMAbqqSIGMAbqqTAUbqqUPSILONbqqPHIbqqCHIbqqPSIbqqO",
     "MEGAbpxPARTIAL DIFFERENTIALbpxEPSILON SYMBOLbpxTHETA SYMBOLbpxKAPPA SYMBOLbpxPHI SYMBOLbpxRHO SY",
     "MBOLbpxPI SYMBOLbonBOLD CAPITAL DIGAMMAbosSMALL DIGAMMAdosDIGIT ZEROboyONEboyTWObozHREEboyFOURbo",
     "zIVEboySIXbozEVENboyEIGHTboyNINEbonDOUBLE-STRUCK DIGIT ZERObpuONEbpuTWObpvHREEbpuFOURbpvIVEbpuSI",
     "XbpvEVENbpuEIGHTbpuNINEbonSANS-SERIF DIGIT ZERObprONEbprTWObpsHREEbprFOURbpsIVEbprSIXbpsEVENbprE",
     "IGHTbprNINEboyBOLD DIGIT ZERObpwONEbpwTWObpxHREEbpwFOURbpxIVEbpwSIXbpxEVENbpwEIGHTbpwNINEbonMONO",
     "SPACE DIGIT ZERObpqONEbpqTWObprHREEbpqFOURbprIVEbpqSIXbprEVENbpqEIGHTbpqNINEbSIGNWRITING HAND-FI",
     "ST INDEXborCIRCLE INDEXbosUP INDEXborOVAL INDEXborHINGE INDEXborANGLE INDEXborFIST INDEX BENTbor",
     "CIRCLE INDEX BENTborFIST THUMB UNDER INDEX BENTbowINDEX RAISED KNUCKLEbppCUPPEDbppHINGEDbpv LOWb",
     "orCIRCLE INDEX HINGEborFIST INDEX MIDDLEborCIRCLE INDEX MIDDLEborFIST INDEX MIDDLE BENTbpwRAISED",
     " KNUCKLESbpwHINGEDbppUP MIDDLE HINGEDbppHINGED MIDDLE UPbppMIDDLE CONJOINEDbqs INDEX BENTbqtMIDD",
     "LE BENTbqtCUPPEDbqtHINGEDbpxROSSEDborCIRCLE INDEX MIDDLE CROSSEDborFIST MIDDLE BENT OVER INDEXbo",
     "wINDEX BENT OVER MIDDLEbppMIDDLE THUMBborCIRCLE INDEX MIDDLE THUMBborFIST INDEX MIDDLE STRAIGHT ",
     "THUMB BENTbpwBENT THUMB STRAIGHTbpwTHUMB BENTbpwHINGED SPREAD THUMB SIDEbppUP MIDDLE HINGED THUM",
     "B SIDEbqzCONJOINEDbppHINGED MIDDLE UP THUMB SIDEbppMIDDLE UP SPREAD THUMB FORWARDbpwTHUMB CUPPED",
     "bqqIRCLEDbqpHOOKEDbqqINGEDbowTHUMB BETWEEN INDEX MIDDLE STRAIGHTbowINDEX MIDDLE CONJOINED THUMB ",
     "SIDEbrq CONJOINEDbrrBENTbowMIDDLE THUMB HOOKED INDEX UPbowINDEX THUMB HOOKED MIDDLE UPbppMIDDLE ",
     "CONJOINED HINGED THUMB SIDEbpxROSSED THUMB SIDEbpxONJOINED THUMB FORWARDbqtCUPPED THUMB FORWARDb",
     "owMIDDLE THUMB CUPPED INDEX UPbowINDEX THUMB CUPPED MIDDLE UPbowMIDDLE THUMB CIRCLED INDEX UPbqx",
     "HINGEDbowINDEX THUMB ANGLED OUT MIDDLE UPbqpIN MIDDLE UPbpvCIRCLED MIDDLE UPbppMIDDLE THUMB CONJ",
     "OINED HINGEDbqpANGLED OUTbqvbowMIDDLE THUMB ANGLED OUT INDEX UPbrnCROSSEDbqqINDEX UPbowINDEX THU",
     "MB HOOKED MIDDLE HINGEDbosLAT FOUR FINGERSbpv BENTbpwHINGEDbpwCONJOINEDbqs SPLITborCLAW FOUR FIN",
     "GERS CONJOINEDborFIST FOUR FINGERS CONJOINED BENTborHINGE FOUR FINGERS CONJOINEDborFLAT FIVE FIN",
     "GERS SPREADbowHEEL FIVE FINGERS SPREADbowFIVE FINGERS SPREAD FOUR BENTbowHEEL FIVE FINGERS SPREA",
     "D FOUR BENTbowFIVE FINGERS SPREAD BENTbowHEEL FIVE FINGERS SPREAD BENTbowFIVE FINGERS SPREAD THU",
     "MB FORWARDborCUP FIVE FINGERS SPREADbqo OPENborHINGE FIVE FINGERS SPREAD OPENborOVAL FIVE FINGER",
     "S SPREADborFLAT FIVE FINGERS SPREAD HINGEDbqw THUMB SIDEbqxNO THUMBbovbov BETWEEN PALM FACINGSbo",
     "wHEELbowTHUMB SIDEbowHEEL THUMB SIDEbowTHUMB BENTbppFORWARDbowSPLIT INDEX THUMB SIDEbppCENTREbpv",
     " THUMB SIDEbqt BENTbppLITTLEborCLAWbov THUMB SIDEbowNO THUMBbowTHUMB FORWARDborHOOK CURLICUEbovb",
     "orCUP OPENboubou OPEN THUMB SIDEbovTHUMB SIDEbovOPEN NO THUMBbovNO THUMBbovOPEN THUMB FORWARDbov",
     "THUMB FORWARDbotRLICUE OPENbozbosIRCLEborOVALbov THUMB SIDEbowNO THUMBbowTHUMB FORWARDborHINGE O",
     "PENbpo THUMB FORWARDbowbow SMALLboxOPEN THUMB SIDEboxTHUMB SIDEboxOPEN NO THUMBboxNO THUMBboxTHU",
     "MB SIDE TOUCHING INDEXbpqBETWEEN MIDDLE RINGborANGLEborFIST INDEX MIDDLE RINGborCIRCLE INDEX MID",
     "DLE RINGborHINGE INDEX MIDDLE RINGborANGLE INDEX MIDDLE RINGborHINGE LITTLEborFIST INDEX MIDDLE ",
     "RING BENTbqoCONJOINEDborHINGE INDEX MIDDLE RING CONJOINEDborFIST LITTLE DOWNbpu RIPPLE STRAIGHTb",
     "qpCURVEDbpvOTHERS CIRCLEDbpqUPbowTHUMB UNDER LITTLE UPborCIRCLE LITTLE UPborOVAL LITTLE UPborANG",
     "LE LITTLE UPborFIST LITTLE RAISED KNUCKLEbpqBENTbpqTOUCHES THUMBbprHUMBborHINGE LITTLE THUMBborF",
     "IST LITTLE INDEX THUMBborHINGE LITTLE INDEX THUMBborANGLE LITTLE INDEX THUMB INDEX THUMB OUTbrob",
     "orFIST LITTLE INDEXborCIRCLE LITTLE INDEXborHINGE LITTLE INDEXborANGLE LITTLE INDEXborFIST INDEX",
     " MIDDLE LITTLEborCIRCLE INDEX MIDDLE LITTLEborHINGE INDEX MIDDLE LITTLEboxRINGborANGLE INDEX MID",
     "DLE LITTLEborFIST INDEX MIDDLE CROSS LITTLEborCIRCLE INDEX MIDDLE CROSS LITTLEborFIST RING DOWNb",
     "orHINGE RING DOWN INDEX THUMB HOOK MIDDLEborANGLE RING DOWN MIDDLE THUMB INDEX CROSSborFIST RING",
     " UPbpoRAISED KNUCKLEbpoLITTLEborCIRCLE RING LITTLEborOVAL RING LITTLEborANGLE RING LITTLEborFIST",
     " RING MIDDLEbpu CONJOINEDbpvRAISED KNUCKLESbpoINDEXbpoTHUMBborHOOK RING THUMBborFIST INDEX RING ",
     "LITTLEborCIRCLE INDEX RING LITTLEbosURLICUE INDEX RING LITTLE ONborHOOK INDEX RING LITTLE OUTbqo",
     "INbqoUNDERborCUP INDEX RING LITTLEborHINGE INDEX RING LITTLEborANGLE INDEX RING LITTLE OUTbqobor",
     "FIST MIDDLE DOWNborHINGE MIDDLEborFIST MIDDLE UPborCIRCLE MIDDLE UPborFIST MIDDLE RAISED KNUCKLE",
     "bpqUP THUMB SIDEborHOOK MIDDLE THUMBborFIST MIDDLE THUMB LITTLEbpqLITTLEbpqRING LITTLEborCIRCLE ",
     "MIDDLE RING LITTLEbosURLICUE MIDDLE RING LITTLE ONbotP MIDDLE RING LITTLEborHINGE MIDDLE RING LI",
     "TTLEborANGLE MIDDLE RING LITTLE OUTbqqINbqpborCIRCLE MIDDLE RING LITTLE BENTbosLAW MIDDLE RING L",
     "ITTLE CONJOINEDbqy SIDEborHOOK MIDDLE RING LITTLE CONJOINED OUTbqzINbqybosINGE INDEX HINGEDborFI",
     "ST INDEX THUMB SIDEborHINGE INDEX THUMB SIDEborFIST INDEX THUMB SIDE THUMB DIAGONALbqtCONJOINEDb",
     "qtBENTbqnINDEX BENTbqnBOTH BENTbqnINDEX HINGEbpvFORWARD INDEX STRAIGHTbqwBENTbpvHOOKbpvCURLICUEb",
     "pyVE THUMB INSIDEborCLAW INDEX THUMB CURVE THUMB INSIDEborFIST INDEX THUMB CURVE THUMB UNDERbpwI",
     "RCLEborCUP INDEX THUMBbpt OPENborHINGE INDEX THUMB OPENbpwLARGEbpvbpv SMALLborANGLE INDEX THUMB ",
     "OUTbpwINbpvborFIST THUMBbpo HEELbppSIDE DIAGONALbpuCONJOINEDbpuBENTbppFORWARDbppBETWEEN INDEX MI",
     "DDLEbpxMIDDLE RINGbpxRING LITTLEbppUNDER TWO FINGERSbppOVER TWO FINGERSbppUNDER THREE FINGERSbpv",
     "FOUR FINGERSbppOVER FOUR RAISED KNUCKLESbovbov HEELbzTOUCH SINGLEbosMULTIPLEbosBETWEENbzGRASP SI",
     "NGLEbosMULTIPLEbosBETWEENbzSTRIKE SINGLEbotMULTIPLEbotBETWEENbzBRUSH SINGLEbosMULTIPLEbosBETWEEN",
     "bzRUB SINGLEboqMULTIPLEboqBETWEENbzSURFACE SYMBOLSbouBETWEENbonQUEEZE LARGE SINGLEbouSMALL SINGL",
     "EbouLARGE MULTIPLEbouSMALL MULTIPLEbovEQUENTIALbzFLICK LARGE SINGLEbosSMALL SINGLEbosLARGE MULTI",
     "PLEbosSMALL MULTIPLEbotEQUENTIALbzSQUEEZE FLICK ALTERNATINGbzMOVEMENT-HINGE UP DOWN LARGEbpwSMAL",
     "LbprSEQUENTIALbpoDOWN SEQUENTIALbpoUP DOWN ALTERNATING LARGEbqvSMALLbpoSIDE TO SIDE SCISSORSbovW",
     "ALLPLANE FINGER CONTACTbovFLOORPLANE FINGER CONTACTbovWALLPLANE SINGLE STRAIGHT SMALLbqvMEDIUMbq",
     "vLARGEbrnSTbpzWRIST FLEXbpsDOUBLE STRAIGHTbpzWRIST FLEXbpzALTERNATINGbqx WRIST FLEXbpsCROSSbpsTR",
     "IPLE STRAIGHT MOVEMENTbpzWRIST FLEXbpzALTERNATINGbqx WRIST FLEXbpsBEND SMALLbpxMEDIUMbpxLARGEbps",
     "CORNER SMALLbpzMEDIUMbpzLARGEbpzROTATIONbptHECK SMALLbpyMEDIUMbpyLARGEbpsBOX SMALLbpwMEDIUMbpwLA",
     "RGEbpsZIGZAG SMALLbpzMEDIUMbpzLARGEbpsPEAKS SMALLbpyMEDIUMbpyLARGEbzTRAVEL-WALLPLANE ROTATION-WA",
     "LLPLANE SINGLEbqwDOUBLEbqwALTERNATINGbpzFLOORPLANE SINGLEbqxDOUBLEbqxALTERNATINGbpqSHAKINGbpqARM",
     " SPIRAL SINGLEbqoDOUBLEbqoTRIPLEbzMOVEMENT-DIAGONAL AWAY SMALLbpwMEDIUMbpwLARGEbqoSTbprTOWARDS S",
     "MALLbpzMEDIUMbpzLARGEbqrSTbprBETWEEN AWAY SMALLbqrMEDIUMbqrLARGEbqwSTbpzTOWARDS SMALLbquMEDIUMbq",
     "uLARGEbqzSTbovFLOORPLANE SINGLE STRAIGHT SMALLbqwMEDIUMbqwLARGEbroSTbqnWRIST FLEXbptDOUBLE STRAI",
     "GHTbqnWRIST FLEXbqnALTERNATINGbqy WRIST FLEXbptCROSSbptTRIPLE STRAIGHT MOVEMENTbqnWRIST FLEXbqnA",
     "LTERNATING MOVEMENTbqzWRIST FLEXbptBENDbptCORNER SMALLbqnMEDIUMbqnLARGEbpuHECKbptBOX SMALLbpxMED",
     "IUMbpxLARGEbptZIGZAG SMALLbqnMEDIUMbqnLARGEbptPEAKS SMALLbpzMEDIUMbpzLARGEbzTRAVEL-FLOORPLANE RO",
     "TATION-FLOORPLANE SINGLEbqyDOUBLEbqyALTERNATINGbqnWALLPLANE SINGLEbqxDOUBLEbqxALTERNATINGbprSHAK",
     "INGbzMOVEMENT-WALLPLANE CURVE QUARTER SMALLbqtMEDIUMbqtLARGEbqySTbpyHALF-CIRCLE SMALLbqxMEDIUMbq",
     "xLARGEbrpSTbpyTHREE-QUARTER CIRCLE SMALLbrtMEDIUMbpsHUMP SMALLbpxMEDIUMbpxLARGEbpsLOOP SMALLbpxM",
     "EDIUMbpxLARGEbpxSMALL DOUBLEbpsWAVE CURVE DOUBLE SMALLbqxMEDIUMbqxLARGEbqqTRIPLE SMALLbqxMEDIUMb",
     "qxLARGEbpsCURVE THEN STRAIGHTbpxD CROSS SMALLbqsMEDIUMbzROTATION-WALLPLANE SINGLEbpsDOUBLEbpsALT",
     "ERNATEbzMOVEMENT-WALLPLANE SHAKINGbpsCURVE HITTING FRONT WALLbpsHUMP HITTING FRONT WALLbpsLOOP H",
     "ITTING FRONT WALLbpsWAVE HITTING FRONT WALLbzROTATION-WALLPLANE SINGLE HITTING FRONT WALLbpsDOUB",
     "LE HITTING FRONT WALLbpsALTERNATING HITTING FRONT WALLbzMOVEMENT-WALLPLANE CURVE HITTING CHESTbp",
     "sHUMP HITTING CHESTbpsLOOP HITTING CHESTbpsWAVE HITTING CHESTbzROTATION-WALLPLANE SINGLE HITTING",
     " CHESTbpsDOUBLE HITTING CHESTbpsALTERNATING HITTING CHESTbzMOVEMENT-WALLPLANE WAVE DIAGONAL PATH"]

def characterNameRecordsPart12 : String :=
  String.join
    [" SMALLbqyMEDIUMbqyLARGEbovFLOORPLANE CURVE HITTING CEILING SMALLbrpLARGEbptHUMP HITTING CEILING ",
     "SMALL DOUBLEbroLARGE DOUBLEbroSMALL TRIPLEbroLARGE TRIPLEbptLOOP HITTING CEILING SMALL SINGLEbro",
     "LARGE SINGLEbroSMALL DOUBLEbroLARGE DOUBLEbptWAVE HITTING CEILING SMALLbroLARGEbzROTATION-FLOORP",
     "LANE SINGLE HITTING CEILINGbptDOUBLE HITTING CEILINGbptALTERNATING HITTING CEILINGbzMOVEMENT-FLO",
     "ORPLANE CURVE HITTING FLOOR SMALLbrnLARGEbptHUMP HITTING FLOOR SMALL DOUBLEbqzLARGE DOUBLEbqzTRI",
     "PLE SMALL TRIPLEbrtLARGE TRIPLEbptLOOP HITTING FLOOR SMALL SINGLEbqzLARGE SINGLEbqzSMALL DOUBLEb",
     "qzLARGE DOUBLEbptWAVE HITTING FLOOR SMALLbqzLARGEbzROTATION-FLOORPLANE SINGLE HITTING FLOORbptDO",
     "UBLE HITTING FLOORbptALTERNATING HITTING FLOORbzMOVEMENT-FLOORPLANE CURVE SMALLbpzMEDIUMbpzLARGE",
     "bqrSTbpzCOMBINEDbptHUMP SMALLbptLOOP SMALLbptWAVE SNAKEbpzMALLbpyLARGEbzROTATION-FLOORPLANE SING",
     "LEbptDOUBLEbptALTERNATINGbzMOVEMENT-FLOORPLANE SHAKING PARALLELbovWALLPLANE ARM CIRCLE SMALL SIN",
     "GLEbqqMEDIUM SINGLEbqqSMALL DOUBLEbqqMEDIUM DOUBLEbovFLOORPLANE ARM CIRCLE HITTING WALL SMALL SI",
     "NGLEbrrMEDIUM SINGLEbrrLARGE SINGLEbrrSMALL DOUBLEbrrMEDIUM DOUBLEbrrLARGE DOUBLEbovWALLPLANE WR",
     "IST CIRCLE FRONT SINGLEbqyDOUBLEbovFLOORPLANE WRIST CIRCLE HITTING WALL SINGLEbrtDOUBLEbovWALLPL",
     "ANE FINGER CIRCLES SINGLEbquDOUBLEbovFLOORPLANE FINGER CIRCLES HITTING WALL SINGLEbrvDOUBLEbzDYN",
     "AMIC ARROWHEAD SMALLbprLARGEbouFASTbouSLOWbouTENSEbouRELAXEDbouSIMULTANEOUSbpt ALTERNATINGbouEVE",
     "RY OTHER TIMEbouGRADUALbzHEADboq RIMborMOVEMENT-WALLPLANE STRAIGHTbpxTILTbpnFLOORPLANE STRAIGHTb",
     "pnWALLPLANE CURVEbpnFLOORPLANE CURVEboz CIRCLEbzFACE DIRECTION POSITION NOSE FORWARD TILTINGbqpU",
     "P OR DOWNbqz TILTINGbzEYEBROWS STRAIGHT UPbprNEUTRALbprDOWNbzDREAMY EYEBROWS NEUTRAL DOWNbppDOWN",
     " NEUTRALbppUP NEUTRALbppNEUTRAL UPbzFOREHEAD NEUTRALbovCONTACTbovWRINKLEDbzEYES OPENborSQUEEZEDb",
     "orCLOSEDbop BLINK SINGLEbowMULTIPLEbopS HALF OPENborWIDE OPENborHALF CLOSEDborWIDENING MOVEMENTb",
     "op WINKbopLASHES UPbowDOWNbowFLUTTERINGbopGAZE-WALLPLANE STRAIGHTbpz DOUBLEbqnALTERNATINGbouFLOO",
     "RPLANE STRAIGHTbqn DOUBLEbqoALTERNATINGbouWALLPLANE CURVEDbouFLOORPLANE CURVEDbouWALLPLANE CIRCL",
     "INGbzCHEEKS PUFFEDbotNEUTRALbotSUCKEDbzTENSE CHEEKS HIGHbozMIDDLEbozLOWbzEARSbzNOSE NEUTRALborCO",
     "NTACTborWRINKLESbosIGGLESbzAIR BLOWING OUTboqSUCKING INboqBLOW SMALL ROTATIONSboqSUCK SMALL ROTA",
     "TIONSbzBREATH INHALEbotEXHALEbzMOUTH CLOSED NEUTRALbozFORWARDbozCONTACTbosSMILEbox WRINKLEDboyOP",
     "ENbosFROWNbox WRINKLEDboyOPENbosOPEN CIRCLEboxFORWARDboxWRINKLEDboxOVALbpo WRINKLEDbppYAWNboxREC",
     "TANGLEbpt WRINKLEDbpuYAWNbosKISSbow FORWARDboxWRINKLEDbosTENSEbox FORWARDboySUCKEDbzLIPS PRESSED",
     " TOGETHERbop LOWER OVER UPPERboqUPPER OVER LOWERbzMOUTH CORNERSbosWRINKLES SINGLEbpoDOUBLEbzTONG",
     "UE STICKING OUT FARbotLICKING LIPSbotTIP BETWEEN LIPSboxTOUCHING INSIDE MOUTHbotINSIDE MOUTH REL",
     "AXEDbotMOVES AGAINST CHEEKbotCENTRE STICKING OUTbpnINSIDE MOUTHbonEETHbor MOVEMENTbosON TONGUEbp",
     "o MOVEMENTbovLIPSboz MOVEMENTbosBITE LIPSbzMOVEMENT-WALLPLANE JAWbovFLOORPLANE JAWbzNECKbzHAIRbz",
     "EXCITEMENTbzSHOULDER HIP SPINEbozPOSITIONSbzWALLPLANE SHOULDER HIP MOVEbzFLOORPLANE SHOULDER HIP",
     " MOVEbzSHOULDER TILTING FROM WAISTbzTORSO-WALLPLANE STRAIGHT STRETCHbppCURVED BENDbosFLOORPLANE ",
     "TWISTINGbzUPPER BODY TILTING FROM HIP JOINTSbzLIMB COMBINATIONborLENGTH-1boy2boy3boy4boy5boy6boy",
     "7bzFINGERbzLOCATION-WALLPLANE SPACEbovFLOORPLANE SPACEbou HEIGHTbovWIDTHbovDEPTHbovHEAD NECKbovT",
     "ORSObovLIMBS DIGITSbzCOMMAbzFULL STOPbzSEMICOLONbzCOLONbzPARENTHESISbdzFILL MODIFIER-2bpn3bpn4bp",
     "n5bpn6czROTATION MODIFIER-2bpr3bpr4bpr5bpr6bpr7bpr8bpr9bpr10bps1bps2bps3bps4bps5bps6ghaLATIN SMA",
     "LL LETTER FENG DIGRAPH WITH TRILLbotREVERSED SCRIPT GbtLETTER SMALL CAPITAL TURNED GbtSMALL LETT",
     "ER REVERSED KbtLETTER SMALL CAPITAL L WITH BELTbtSMALL LETTER LEZH WITH RETROFLEX HOOKbotTURNED ",
     "Y WITH BELTbotREVERSED ENGbotTURNED R WITH LONG LEG AND RETROFLEX HOOKbou WITH HOOK AND RETROFLE",
     "X HOOKbtLETTER RETROFLEX CLICK WITH RETROFLEX HOOKbtSMALL LETTER ESH WITH DOUBLE BARbpz AND CURL",
     "botTURNED T WITH CURLbtLETTER INVERTED GLOTTAL STOP WITH CURLbonSTRETCHED C WITH CURLbooMALL CAP",
     "ITAL TURNED KbtSMALL LETTER L WITH FISHHOOKbotDEZH DIGRAPH WITH PALATAL HOOKbotL WITH BELT AND P",
     "ALATAL HOOKbotENG WITH PALATAL HOOKbotTURNED R WITH PALATAL HOOKbotR WITH FISHHOOK AND PALATAL H",
     "OOKbotTESH DIGRAPH WITH PALATAL HOOKbotEZH WITH PALATAL HOOKbotDEZH DIGRAPH WITH RETROFLEX HOOKb",
     "otI WITH STROKE AND RETROFLEX HOOKbotO WITH RETROFLEX HOOKbotTESH DIGRAPH WITH RETROFLEX HOOKbot",
     "C WITH RETROFLEX HOOKbotS WITH CURLbefCOMBINING GLAGOLITIC LETTER AZUbppBUKYbppVEDEbppGLAGOLIbpp",
     "DOBRObppYESTUbppZHIVETEcpqEMLJAbppIZHEbpqNITIAL IZHEbpqbppDJERVIbppKAKObppLJUDIJEbppMYSLITEbppNA",
     "SHIbppONUbppPOKOJIbppRITSIbppSLOVObppTVRIDObppUKUbppFRITUbppHERUdppSHTAbppTSIbppCHRIVIbppSHAbppY",
     "ERUbpsIbpqATIcpqUbppSMALL YUScppYObppIOTATED SMALL YUSbppBIG YUSbppIOTATED BIG YUSbppFITAbdgNYIA",
     "KENG PUACHUE HMONG LETTER MAbprTSAbprNTAbprTAbprHAbprNAbprXAbprNKAbprCAbprLAbprSAbprZAbprNCAbpsT",
     "SAbprKAbprDAbprNYAbpsRAbprVAbprNTXAbprTXAbprFAbprRAbprQAbprYAbprNQAbprPAbprXYAbprNPAbprDLAbprNPL",
     "AbprHAHbprMLAbprPLAbprGAbprRRAbprAbpsAbprIbprUbprObpsObprEbpsEbprWeoxTONE-BbppMbppJbppVbppSbppGb",
     "ppDboxSIGN FOR PERSONbptTHINGbptLOCATIONbptANIMALbptINVERTEBRATEbppXW XWboyYLLABLE LENGTHENERdox",
     "DIGIT ZERObpqONEbpqTWObprHREEbpqFOURbprIVEbpqSIXbprEVENbpqEIGHTbpqNINEfoxLOGOGRAM NYAJboxCIRCLED",
     " CAbljTOTO LETTER PAbzBAbzTAbzDAbzKAbzGAbzMAbzNAbonGAbzSAbzCHAbzYAbzWAbzJAbzHAbzRAbzLAbzIbzBREAT",
     "HY IbzIUbzBREATHY IUbzUbzEbzBREATHY EbzEObzBREATHY EObzObzAEbzBREATHY AEbzAbsSIGN RISING TONEbfW",
     "ANCHO LETTER AAbopbooBAbooCAbooDAbooGAbooYAbooPHAbooLAbooNAbooPAbooTAbopHAbooFAbooSAbopHAbooJAbo",
     "oZAbooWAbooVAbooKAbooObooAUbooRAbooMAbooKHAbooHAbooEbooIbooNGAbooUbooLLHAbooTSAbopRAbooONGbooAAN",
     "GbopNGbooINGbooONbooENbooAANbooNYAbooUENbooYIHbuTONE TUPbopNIbzKOIbopNIbuDIGIT ZERObonONEbonTWOb",
     "ooHREEbonFOURbooIVEbonSIXbooEVENbonEIGHTbonNINEguNGUN SIGNhfbETHIOPIC SYLLABLE HHYAbovUbovIbovAA",
     "bovEEbowbovOcosGURAGE HHWAbosHHWIbovEEbowcosGURAGE MWIbpoEEcozQWIbpoEEbppbozBWIbpoEEbozKWIbpoEEb",
     "ppbozGWIbpoEEbppbozFWIbpoEEbozPWIbpoEEcMENDE KIKAKUI SYLLABLE M001 KIbpn2 KAbpn3 KUboz65 KEEboz9",
     "5 KEboz76 KOOboz48 KOboy179 KUAboy004 WIbpn5 WAbpn6 WUboy126 WEEboz18 WEbpn4 WOOboy045 WOboy194 ",
     "WUIboz43 WEIboy061 WVIboz49 WVAboy139 WVEboy007 MINbpn8 MANbpn9 MUNboz59 MENboz94 MONboy154 MUAN",
     "boz89 MUENboy010 BIbpn1 BAbpn2 BUboy150 BEEboy097 BEboy103 BOOboz38 BOboy013 Ibpn4 Abpn5 Uboy163",
     " EEboz00 Eboz65 OOboz47 Oboz37 EIbpn1 INbpn5 INboz95 ANboz78 ENboy019 SIboz20 SAbpn1 SUboy162 SE",
     "Eboz16 SEboz36 SOOboy079 SOboy196 SIAboy025 LIbpn6 LAbpn7 LUboz84 LEEboz73 LEboz54 LOOboy153 LOb",
     "oz10 LONG LEboy016 DIbpn7 DAbpn8 DUboz89 DEEboy180 DOObpn1 DOboy022 TIbpn3 TAbpn4 TUboz91 TEEboz",
     "55 TEboy104 TOOboy069 TOboz28 JIbpn9 JAboz30 JUboy157 JEEboz13 JEboz60 JOOboy063 JOboy175 LONG J",
     "Oboy031 YIbpn2 YAbpn3 YUboy109 YEEboy080 YEboy141 YOOboz21 YOboy034 FIbpn5 FAbpn6 FUboz78 FEEbpn",
     "5 FEboy133 FOOboy088 FOboy197 FUAboz01 FANboy037 NINbpn8 NANbpn9 NUNboy117 NENboz69 NONboz76 HIb",
     "oy041 HAboy186 HUboy040 HEEboz96 HEboz42 HOOboy140 HOboy083 HEEIboy128 HOOUboy053 HINboy130 HANb",
     "oy087 HUNboz52 HENboy193 HONboy046 HUANboz90 NGGIboz43 NGGAboz82 NGGUboy115 NGGEEboz46 NGGEboz56",
     " NGGOOboz20 NGGOboz59 NGGAAboz27 NGGUAboy086 LONG NGGEboy106 LONG NGGOOboz83 LONG NGGOboz55 GIbo",
     "z11 GAboz68 GUboz90 GEEboz66 GUEIbpn7 GUANboz84 NGENboy057 NGONboy177 NGUANboy068 PIboz99 PAboz5",
     "0 PUboz81 PEEboz51 PEboy102 POOboy066 POboy145 MBIboy062 MBAboy122 MBUboy047 MBEEboy188 MBEEboy0",
     "72 MBEboy172 MBOObpn4 MBOboz87 MBUUboz61 LONG MBEboz05 LONG MBOOboz42 LONG MBOboz32 KPIboy092 KP",
     "Aboz74 KPUboz44 KPEEboy108 KPEboz12 KPOOboz58 KPOboz24 GBIboy056 GBAboy148 GBUboy093 GBEEboy107 ",
     "GBEboy071 GBOObpn0 GBOboy171 RAboz23 NDIbpn9 NDAbpn5 NDUboz91 NDEEboz19 NDEboy067 NDOObpn4 NDObo",
     "y152 NJAboz92 NJUboz49 NJEEboz34 NJOOboz82 VIbpn5 VAboz51 VUboz73 VEEboy085 VEboy144 VOOboy077 V",
     "Oboy164 NYINboy058 NYANboy170 NYUNboy098 NYENboz60 NYONdooDIGIT ONEbouTWObovHREEbouFOURbovIVEbou",
     "SIXbovEVENbouEIGHTbouNINEbooCOMBINING NUMBER TEENSbpuNSbpsHUNDREDSbpsTHOUSANDSbptEN THOUSANDSbps",
     "HUNDRED THOUSANDSbpsMILLIONSddADLAM CAPITAL LETTER ALIFbovDAALIbovLAAMbovMIIMbovBAbovSINNYIIYHEb",
     "ovPEbovBHEbovRAbovEbovFAbovIbovObovDHAbovYHEbovWAWbovNUNbovKAFbovYAbovUbovJIIMbovCHIbovHAbovQAAF",
     "bovGAbovNYAbovTUbovNHAbovVAbovKHAbovGBEbovZALbovKPObovSHAbtSMALL LETTER ALIFbotDAALIbotLAAMbotMI",
     "IMbotBAbotSINNYIIYHEbotPEbotBHEbotRAbotEbotFAbotIbotObotDHAbotYHEbotWAWbotNUNbotKAFbotYAbotUbotJ",
     "IIMbotCHIbotHAbotQAAFbotGAbotNYAbotTUbotNHAbotVAbotKHAbotGBEbotZALbotKPObotSHAbtALIF LENGTHENERb",
     "tVOWEL LENGTHENERbtGEMINATION MARKbtHAMZAbtCONSONANT MODIFIERbtGEMINATE CONSONANT MODIFIERbtNUKT",
     "AbuASALIZATION MARKftDIGIT ZERObzONEbzTWObonHREEbzFOURbonIVEbzSIXbonEVENbzEIGHTbzNINEftINITIAL E",
     "XCLAMATION MARKbooQUESTION MARKeigINDIC SIYAQ NUMBER ONEbotTWObouHREEbotFOURbouIVEbotSIXbouEVENb",
     "otEIGHTbotNINEbotTENbouWENTYbouHIRTYbotFORTYbouIFTYbotSIXTYbouEVENTYbotEIGHTYbotNINETYbotONE HUN",
     "DREDbotTWO HUNDREDbouHREE HUNDREDbotFOUR HUNDREDbouIVE HUNDREDbotSIX HUNDREDbouEVEN HUNDREDbotEI",
     "GHT HUNDREDbotNINE HUNDREDbotONE THOUSANDbotTWO THOUSANDbouHREE THOUSANDbotFOUR THOUSANDbouIVE T",
     "HOUSANDbotSIX THOUSANDbouEVEN THOUSANDbotEIGHT THOUSANDbotNINE THOUSANDbotTEN THOUSANDbouWENTY T",
     "HOUSANDbouHIRTY THOUSANDbotFORTY THOUSANDbouIFTY THOUSANDbotSIXTY THOUSANDbouEVENTY THOUSANDbotE",
     "IGHTY THOUSANDbotNINETY THOUSANDbotLAKHboxANbzLAKH MARKbzNUMBER KARORboyANbotPREFIXED ONEbppTWOb",
     "pqHREEbppFOURbpqIVEbppSIXbpqEVENbppEIGHTbppNINEbzPLACEHOLDERbzFRACTION ONE QUARTERbozHALFbovTHRE",
     "E QUARTERSbzRUPEE MARKbzNUMBER ALTERNATE ONEbpqTWObprEN THOUSANDbzALTERNATE LAKH MARKfmOTTOMAN S",
     "IYAQ NUMBER ONEbovTWObowHREEbovFOURbowIVEbovSIXbowEVENbovEIGHTbovNINEbovTENbowWENTYbowHIRTYbovFO",
     "RTYbowIFTYbovSIXTYbowEVENTYbovEIGHTYbovNINETYbovONE HUNDREDbovTWO HUNDREDbowHREE HUNDREDbovFOUR ",
     "HUNDREDbowIVE HUNDREDbovSIX HUNDREDbowEVEN HUNDREDbovEIGHT HUNDREDbovNINE HUNDREDbovONE THOUSAND",
     "bovTWO THOUSANDbowHREE THOUSANDbovFOUR THOUSANDbowIVE THOUSANDbovSIX THOUSANDbowEVEN THOUSANDbov",
     "EIGHT THOUSANDbovNINE THOUSANDbovTEN THOUSANDbowWENTY THOUSANDbowHIRTY THOUSANDbovFORTY THOUSAND",
     "bowIFTY THOUSANDbovSIXTY THOUSANDbowEVENTY THOUSANDbovEIGHTY THOUSANDbovNINETY THOUSANDbooMARRAT",
     "ANbooALTERNATE NUMBER TWObptHREEbpsFOURbptIVEbpsSIXbptEVENbpsEIGHTbpsNINEbpsTENbpsFOUR HUNDREDbp",
     "sSIX HUNDREDbpsTWO THOUSANDbptEN THOUSANDbooFRACTION ONE HALFbpoSIXTHbcaARABIC MATHEMATICAL ALEF",
     "bouBEHbouJEEMbouDALcouWAWbouZAINbouHAHbouTAHbouYEHbouKAFbouLAMbouMEEMbouNOONbouSEENbouAINbouFEHb",
     "ouSADbouQAFbouREHbouSHEENbouTEHbovHEHbouKHAHbouTHALbouDADbouZAHbouGHAINbouDOTLESS BEHbppNOONbppF",
     "EHbppQAFcouINITIAL BEHbppJEEMcppHEHdpqAHcppYEHbppKAFbppLAMbppMEEMbppNOONbppSEENbppAINbppFEHbppSA",
     "DbppQAFcppSHEENbppTEHbpqHEHbppKHAHcppDADcppGHAINhouTAILED JEEMfpoHAHcpoYEHcpoLAMcpoNOONbpoSEENbp",
     "oAINcpoSADbpoQAFcpoSHEENdpoKHAHcpoDADcpoGHAINcpoDOTLESS NOONcpwQAFcouSTRETCHED BEHbprJEEMcprHEHd",
     "psAHbprTAHbprYEHbprKAFcprMEEMbprNOONbprSEENbprAINbprFEHbprSADbprQAFcprSHEENbprTEHbpsHEHbprKHAHcp",
     "rDADbprZAHbprGHAINbprDOTLESS BEHcpzFEHcouLOOPED ALEFbpoBEHbpoJEEMbpoDALbpoHEHbpoWAWbpoZAINbpoHAH",
     "bpoTAHbpoYEHcpoLAMbpoMEEMbpoNOONbpoSEENbpoAINbpoFEHbpoSADbpoQAFbpoREHbpoSHEENbpoTEHbppHEHbpoKHAH",
     "bpoTHALbpoDADbpoZAHbpoGHAINgouDOUBLE-STRUCK BEHbpvJEEMbpvDALcpvWAWbpvZAINbpvHAHbpvTAHbpvYEHcpvLA",
     "MbpvMEEMbpvNOONbpvSEENbpvAINbpvFEHbpvSADbpvQAFbpvREHbpvSHEENbpvTEHbpwHEHbpvKHAHbpvTHALbpvDADbpvZ",
     "AHbpvGHAINebouOPERATOR MEEM WITH HAH WITH TATWEELbpqHAH WITH DALbhlMAHJONG TILE EAST WINDbonSOUT",
     "H WINDbonWEST WINDbonNORTH WINDbonRED DRAGONbonGREEN DRAGONbonWHITE DRAGONbonONE OF CHARACTERSbo",
     "nTWO OF CHARACTERSbooHREE OF CHARACTERSbonFOUR OF CHARACTERSbooIVE OF CHARACTERSbonSIX OF CHARAC",
     "TERSbooEVEN OF CHARACTERSbonEIGHT OF CHARACTERSbonNINE OF CHARACTERSbonONE OF BAMBOOSbonTWO OF B",
     "AMBOOSbooHREE OF BAMBOOSbonFOUR OF BAMBOOSbooIVE OF BAMBOOSbonSIX OF BAMBOOSbooEVEN OF BAMBOOSbo",
     "nEIGHT OF BAMBOOSbonNINE OF BAMBOOSbonONE OF CIRCLESbonTWO OF CIRCLESbooHREE OF CIRCLESbonFOUR O",
     "F CIRCLESbooIVE OF CIRCLESbonSIX OF CIRCLESbooEVEN OF CIRCLESbonEIGHT OF CIRCLESbonNINE OF CIRCL",
     "ESbonPLUMbonORCHIDbonBAMBOObonCHRYSANTHEMUMbonSPRINGbooUMMERbonAUTUMNbonWINTERbonJOKERbonBACKfDO",
     "MINO TILE HORIZONTAL BACKbow-00-00bpo1bpo2bpo3bpo4bpo5bpo6boy1-00bpo1bpo2bpo3bpo4bpo5bpo6boy2-00",
     "bpo1bpo2bpo3bpo4bpo5bpo6boy3-00bpo1bpo2bpo3bpo4bpo5bpo6boy4-00bpo1bpo2bpo3bpo4bpo5bpo6boy5-00bpo",
     "1bpo2bpo3bpo4bpo5bpo6boy6-00bpo1bpo2bpo3bpo4bpo5bpo6bzVERTICAL BACKbou-00-00boz1boz2boz3boz4boz5",
     "boz6bow1-00boz1boz2boz3boz4boz5boz6bow2-00boz1boz2boz3boz4boz5boz6bow3-00boz1boz2boz3boz4boz5boz",
     "6bow4-00boz1boz2boz3boz4boz5boz6bow5-00boz1boz2boz3boz4boz5boz6bow6-00boz1boz2boz3boz4boz5boz6ba",
     "PLAYING CARD BACKbonACE OF SPADESbonTWO OF SPADESbooHREE OF SPADESbonFOUR OF SPADESbooIVE OF SPA",
     "DESbonSIX OF SPADESbooEVEN OF SPADESbonEIGHT OF SPADESbonNINE OF SPADESbonTEN OF SPADESbonJACK O",
     "F SPADESbonKNIGHT OF SPADESbonQUEEN OF SPADESbonKING OF SPADESdonACE OF HEARTSbonTWO OF HEARTSbo",
     "oHREE OF HEARTSbonFOUR OF HEARTSbooIVE OF HEARTSbonSIX OF HEARTSbooEVEN OF HEARTSbonEIGHT OF HEA",
     "RTSbonNINE OF HEARTSbonTEN OF HEARTSbonJACK OF HEARTSbonKNIGHT OF HEARTSbonQUEEN OF HEARTSbonKIN",
     "G OF HEARTSbonRED JOKERconACE OF DIAMONDSbonTWO OF DIAMONDSbooHREE OF DIAMONDSbonFOUR OF DIAMOND",
     "SbooIVE OF DIAMONDSbonSIX OF DIAMONDSbooEVEN OF DIAMONDSbonEIGHT OF DIAMONDSbonNINE OF DIAMONDSb",
     "onTEN OF DIAMONDSbonJACK OF DIAMONDSbonKNIGHT OF DIAMONDSbonQUEEN OF DIAMONDSbonKING OF DIAMONDS",
     "bonBLACK JOKERconACE OF CLUBSbonTWO OF CLUBSbooHREE OF CLUBSbonFOUR OF CLUBSbooIVE OF CLUBSbonSI",
     "X OF CLUBSbooEVEN OF CLUBSbonEIGHT OF CLUBSbonNINE OF CLUBSbonTEN OF CLUBSbonJACK OF CLUBSbonKNI",
     "GHT OF CLUBSbonQUEEN OF CLUBSbonKING OF CLUBSbonWHITE JOKERbonFOOLbonTRUMP-1bot2bot3bot4bot5bot6",
     "bot7bot8bot9bot10bou1bou2bou3bou4bou5bou6bou7bou8bou9bot20bou1lDIGIT ZERO FULL STOPbyCOMMAbtONE ",
     "COMMAbtTWO COMMAbuHREE COMMAbtFOUR COMMAbuIVE COMMAbtSIX COMMAbuEVEN COMMAbtEIGHT COMMAbtNINE CO",
     "MMAbpNGBAT CIRCLED SANS-SERIF DIGIT ZERObvNEGATIVE CIRCLED SANS-SERIF DIGIT ZERObCIRCLED ZERO WI",
     "TH SLASHbvANTICLOCKWISE ARROWbvDOLLAR SIGN WITH OVERLAID BACKSLASHbPARENTHESIZED LATIN CAPITAL L",
     "ETTER AbpwBbpwCbpwDbpwEbpwFbpwGbpwHbpwIbpwJbpwKbpwLbpwMbpwNbpwObpwPbpwQbpwRbpwSbpwTbpwUbpwVbpwWb",
     "pwXbpwYbpwZbTORTOISE SHELL BRACKETED LATIN CAPITAL LETTER SbCIRCLED ITALIC LATIN CAPITAL LETTER ",
     "CbpxRbvCDbvWZboOPYLEFT SYMBOLbSQUARED LATIN CAPITAL LETTER AbpqBbpqCbpqDbpqEbpqFbpqGbpqHbpqIbpqJ",
     "bpqKbpqLbpqMbpqNbpqObpqPbpqQbpqRbpqSbpqTbpqUbpqVbpqWbpqXbpqYbpqZbvHVbvMVbvSDbwSbvPPVbvWCbNEGATIV",
     "E CIRCLED LATIN CAPITAL LETTER AbpzBbpzCbpzDbpzEbpzFbpzGbpzHbpzIbpzJbpzKbpzLbpzMbpzNbpzObpzPbpzQ",
     "bpzRbpzSbpzTbpzUbpzVbpzWbpzXbpzYbpzZbRAISED MC SIGNbvD SIGNbvR SIGNbCIRCLED CCbw WITH OVERLAID B",
     "ACKSLASHbvHUMAN FIGUREbNEGATIVE SQUARED LATIN CAPITAL LETTER AbpzBbpzCbpzDbpzEbpzFbpzGbpzHbpzIbp",
     "zJbpzKbpzLbpzMbpzNbpzObpzPbpzQbpzRbpzSbpzTbpzUbpzVbpzWbpzXbpzYbpzZbCROSSED NEGATIVE SQUARED LATI",
     "N CAPITAL LETTER PbNEGATIVE SQUARED ICborPAborSAborABborWCbSQUARE DJbtD CLbwOOLbvFREEbvIDbvNEWbw",
     "GbvOKbvSOSbvUP WITH EXCLAMATION MARKbvVSbvTHREE DbvSECOND SCREENbvTWO KbvFOUR KbvEIGHT KbvFIVE P",
     "OINT ONEbvSEVEN POINT ONEbvTWENTY-TWO POINT TWObvSIXTY PbvONE HUNDRED TWENTY PbvLATIN SMALL LETT",
     "ER DbvHCbwDRbwI-RESbvLOSSLESSbvSHVbvUHDbvVODbMASK WORK SYMBOLefREGIONAL INDICATOR SYMBOL LETTER ",
     "AbpuBbpuCbpuDbpuEbpuFbpuGbpuHbpuIbpuJbpuKbpuLbpuMbpuNbpuObpuPbpuQbpuRbpuSbpuTbpuUbpuVbpuWbpuXbpu",
     "YbpuZbSQUARE HIRAGANA HOKAbtD KATAKANA KOKOborSAbbvCJK UNIFIED IDEOGRAPH-624Bbpr5B57bps3CCbvKATA",
     "KANA DEbvCJK UNIFIED IDEOGRAPH-4E8Cbpr591Abpr89E3bpr5929bpr4EA4bpr6620bpr7121bpr6599bpr524DbpsF8",
     "Cbps18Dbpr65B0bpr521Dbpr7D42bps51Fbpr8CA9bpr58F0bps439bpr6F14bps295bps355bpr4E00bpu9bpr904Abpr5D",
     "E6bpr4E2Dbpr53F3bpr6307bpr8D70bpr6253bpr7981bpsA7Abpr5408bpr6E80bps709bpu8bpr7533bpr5272bps5B6bp",
     "r914DfTORTOISE SHELL BRACKETED CJK UNIFIED IDEOGRAPH-672Cbqv4E09bqx8Cbqv5B89bqv70B9bqv6253bqv76D",
     "7bqv52DDbqv6557iCIRCLED IDEOGRAPH ADVANTAGEbotCCEPTbcROUNDED SYMBOL FOR FUbotLUbotSHOUbotXIbotSH",
     "UANGXIbotCAIlmCYCLONEbFOGGYbCLOSED UMBRELLAbNIGHT WITH STARSbSUNRISE OVER MOUNTAINSbubCITYSCAPE ",
     "AT DUSKbSUNSET OVER BUILDINGSbRAINBOWbBRIDGE AT NIGHTbWATER WAVEbVOLCANObMILKY WAYbEARTH GLOBE E",
     "UROPE-AFRICAbzAMERICASbonSIA-AUSTRALIAbGLOBE WITH MERIDIANSbNEW MOON SYMBOLbWAXING CRESCENT MOON",
     " SYMBOLbFIRST QUARTER MOON SYMBOLbWAXING GIBBOUS MOON SYMBOLbFULL MOON SYMBOLbWANING GIBBOUS MOO",
     "N SYMBOLbLAST QUARTER MOON SYMBOLbWANING CRESCENT MOON SYMBOLbCRESCENT MOONbNEW MOON WITH FACEbF",
     "IRST QUARTER MOON WITH FACEbLAST QUARTER MOON WITH FACEbFULL MOON WITH FACEbSUN WITH FACEbGLOWIN",
     "G STARbSHOOTING STARbTHERMOMETERbBLACK DROPLETbWHITE SUNbw WITH SMALL CLOUDbxBEHIND CLOUDbow WIT",
     "H RAINbCLOUD WITH RAINbySNOWbyLIGHTNINGbyTORNADObFOGbWIND BLOWING FACEbHOT DOGbTACObBURRITObCHES",
     "TNUTbSEEDLINGbEVERGREEN TREEbDECIDUOUS TREEbPALM TREEbCACTUSbHOT PEPPERbTULIPbCHERRY BLOSSOMbROS",
     "EbHIBISCUSbSUNFLOWERbBLOSSOMbEAR OF MAIZEbuRICEbHERBbFOUR LEAF CLOVERbMAPLE LEAFbFALLEN LEAFbLEA",
     "F FLUTTERING IN WINDbMUSHROOMbTOMATObAUBERGINEbGRAPESbMELONbWATERMELONbTANGERINEbLEMONbBANANAbPI",
     "NEAPPLEbRED APPLEbGREEN APPLEbPEARbqCHbCHERRIESbSTRAWBERRYbHAMBURGERbSLICE OF PIZZAbMEAT ON BONE",
     "bPOULTRY LEGbRICE CRACKERbsBALLbCOOKED RICEboURRY AND RICEbSTEAMING BOWLboPAGHETTIbBREADbFRENCH ",
     "FRIESbROASTED SWEET POTATObDANGObODENbSUSHIbFRIED SHRIMPboISH CAKE WITH SWIRL DESIGNbSOFT ICE CR",
     "EAMboHAVED ICEbICE CREAMbDOUGHNUTbCOOKIEboHOCOLATE BARboANDYbLOLLIPOPbCUSTARDbHONEY POTbSHORTCAK",
     "EbBENTO BOXbPOT OF FOODbCOOKINGbFORK AND KNIFEbTEACUP WITHOUT HANDLEbSAKE BOTTLE AND CUPbWINE GL",
     "ASSbCOCKTAIL GLASSbTROPICAL DRINKbBEER MUGbCLINKING BEER MUGSbBABY BOTTLEbFORK AND KNIFE WITH PL",
     "ATEbBOTTLE WITH POPPING CORKbPOPCORNbRIBBONbWRAPPED PRESENTbBIRTHDAY CAKEbJACK-O-LANTERNbCHRISTM",
     "AS TREEbFATHER CHRISTMASboIREWORKSbv SPARKLERbBALLOONbPARTY POPPERbCONFETTI BALLbTANABATA TREEbC",
     "ROSSED FLAGSbPINE DECORATIONbJAPANESE DOLLSbCARP STREAMERbWIND CHIMEbMOON VIEWING CEREMONYbSCHOO",
     "L SATCHELbGRADUATION CAPbHEART WITH TIP ON THE LEFTbBOUQUET OF FLOWERSbMILITARY MEDALbREMINDER R",
     "IBBONbMUSICAL KEYBOARD WITH JACKSbSTUDIO MICROPHONEbLEVEL SLIDERbCONTROL KNOBSbBEAMED ASCENDING ",
     "MUSICAL NOTESbuDESCENDING MUSICAL NOTESbFILM FRAMESbADMISSION TICKETSbCAROUSEL HORSEbFERRIS WHEE",
     "LbROLLER COASTERbFISHING POLE AND FISHbMICROPHONEboOVIE CAMERAbCINEMAbHEADPHONEbARTIST PALETTEbT",
     "OP HATbCIRCUS TENTbTICKETbCLAPPER BOARDbPERFORMING ARTSbVIDEO GAMEbDIRECT HITbSLOT MACHINEbBILLI",
     "ARDSbGAME DIEbBOWLINGbFLOWER PLAYING CARDSbMUSICAL NOTEbpLTIPLE MUSICAL NOTESbSAXOPHONEbGUITARbM",
     "USICAL KEYBOARDbTRUMPETbVIOLINbMUSICAL SCOREbRUNNING SHIRT WITH SASHbTENNIS RACQUET AND BALLbSKI",
     " AND SKI BOOTbBASKETBALL AND HOOPbCHEQUERED FLAGbSNOWBOARDERbRUNNERbSURFERboPORTS MEDALbTROPHYbH",
     "ORSE RACINGbAMERICAN FOOTBALLbRUGBY FOOTBALLbSWIMMERbWEIGHT LIFTERbGOLFERbRACING MOTORCYCLEbuCAR",
     "bCRICKET BAT AND BALLbVOLLEYBALLbFIELD HOCKEY STICK AND BALLbICE HOCKEY STICK AND PUCKbTABLE TEN",
     "NIS PADDLE AND BALLbSNOW CAPPED MOUNTAINbCAMPINGbBEACH WITH UMBRELLAboUILDING CONSTRUCTIONbHOUSE",
     " BUILDINGSbCITYSCAPEbDERELICT HOUSE BUILDINGbCLASSICAL BUILDINGbDESERTbt ISLANDbNATIONAL PARKbST",
     "ADIUMbHOUSE BUILDINGbtWITH GARDENbOFFICE BUILDINGbJAPANESE POST OFFICEbEUROPEAN POST OFFICEbHOSP",
     "ITALbBANKbAUTOMATED TELLER MACHINEbHOTELbLOVE HOTELbCONVENIENCE STOREbSCHOOLbDEPARTMENT STOREbFA",
     "CTORYbIZAKAYA LANTERNbJAPANESE CASTLEbEUROPEAN CASTLEbWHITE PENNANTbBLACK PENNANTbWAVING WHITE F",
     "LAGbuBLACK FLAGbROSETTEbBLACK ROSETTEbLABELbBADMINTON RACQUET AND SHUTTLECOCKboOW AND ARROWbAMPH",
     "ORAbEMOJI MODIFIER FITZPATRICK TYPE-1-2bpt3bpt4bpt5bpt6bRATbMOUSEbOXbWATER BUFFALObCOWbTIGERbLEO",
     "PARDbRABBITbCATbDRAGONbCROCODILEbWHALEbSNAILbqKEbHORSEbRAMbGOATbSHEEPbMONKEYbROOSTERbCHICKENbDOG",
     "bPIGbBOARbELEPHANTbOCTOPUSbSPIRAL SHELLbBUGbANTbHONEYBEEbLADY BEETLEbFISHbTROPICAL FISHbBLOWFISH",
     "bTURTLEbHATCHING CHICKbBABY CHICKbFRONT-FACING BABY CHICKbBIRDbPENGUINbKOALAbPOODLEbDROMEDARY CA",
     "MELbBACTRIAN CAMELbDOLPHINbMOUSE FACEbCOW FACEbTIGER FACEbRABBIT FACEbCAT FACEbDRAGON FACEbSPOUT",
     "ING WHALEbHORSE FACEbMONKEY FACEbDOG FACEbPIG FACEbFROG FACEbHAMSTER FACEbWOLF FACEbBEAR FACEbPA",
     "NDA FACEboIG NOSEboAW PRINTSbCHIPMUNKbEYESbqboARbNOSEbMOUTHbTONGUEbWHITE UP POINTING BACKHAND IN",
     "DEXbtDOWN POINTING BACKHAND INDEXbtLEFT POINTING BACKHAND INDEXbtRIGHT POINTING BACKHAND INDEXbF",
     "ISTED HAND SIGNbWAVING HAND SIGNbOK HAND SIGNbTHUMBS UP SIGNbuDOWN SIGNbCLAPPING HANDS SIGNbOPEN",
     " HANDS SIGNbCROWNbWOMANS HATbEYEGLASSESbNECKTIEbT-SHIRTbJEANSbDRESSbKIMONObBIKINIbWOMANS CLOTHES",
     "bPURSEbHANDBAGbPOUCHbMANS SHOEbATHLETIC SHOEbHIGH-HEELED SHOEbWOMANS SANDALbuBOOTSbFOOTPRINTSbBU",
     "ST IN SILHOUETTEbrS IN SILHOUETTEboOYbGIRLbMANbWOMANbFAMILYbMAN AND WOMAN HOLDING HANDSbTWO MEN ",
     "HOLDING HANDSbrWOMEN HOLDING HANDSbPOLICE OFFICERbWOMAN WITH BUNNY EARSbBRIDE WITH VEILbPERSON W",
     "ITH BLOND HAIRbMAN WITH GUA PI MAObwTURBANbOLDER MANbtWOMANbBABYbCONSTRUCTION WORKERbPRINCESSbJA",
     "PANESE OGREbwGOBLINbGHOSTbBABY ANGELbEXTRATERRESTRIAL ALIENbALIEN MONSTERbIMPbSKULLbINFORMATION ",
     "DESK PERSONbGUARDSMANbDANCERbLIPSTICKbNAIL POLISHbFACE MASSAGEbHAIRCUTbBARBER POLEbSYRINGEbPILLb",
     "KISS MARKbLOVE LETTERbRINGbGEM STONEbKISSbBOUQUETbCOUPLE WITH HEARTbWEDDINGbBEATING HEARTboROKEN",
     " HEARTbTWO HEARTSbSPARKLING HEARTbGROWING HEARTbHEART WITH ARROWbBLUE HEARTbGREEN HEARTbYELLOW H",
     "EARTbPURPLE HEARTbHEART WITH RIBBONbREVOLVING HEARTSbHEART DECORATIONbDIAMOND SHAPE WITH A DOT I",
     "NSIDEbELECTRIC LIGHT BULBbANGER SYMBOLbBOMBbSLEEPING SYMBOLbCOLLISION SYMBOLbSPLASHING SWEAT SYM",
     "BOLbDROPLETboASH SYMBOLbPILE OF POObFLEXED BICEPSbDIZZY SYMBOLbSPEECH BALLOONbTHOUGHT BALLOONbWH",
     "ITE FLOWERbHUNDRED POINTS SYMBOLbMONEY BAGbCURRENCY EXCHANGEbHEAVY DOLLAR SIGNbCREDIT CARDbBANKN",
     "OTE WITH YEN SIGNbooDOLLAR SIGNbooEURO SIGNbooPOUND SIGNbMONEY WITH WINGSbCHART WITH UPWARDS TRE",
     "ND AND YEN SIGNbSEATbPERSONAL COMPUTERbBRIEFCASEbMINIDISCbFLOPPY DISKbOPTICAL DISCbDVDbFILE FOLD",
     "ERbOPEN FILE FOLDERbPAGE WITH CURLbsFACING UPbCALENDARbTEAR-OFF CALENDARbCARD INDEXboHART WITH U",
     "PWARDS TRENDbyDOWNWARDS TRENDbBAR CHARTbCLIPBOARDbPUSHPINbROUND PUSHPINbPAPERCLIPbSTRAIGHT RULER",
     "bTRIANGULAR RULERbBOOKMARK TABSbLEDGERbNOTEBOOKbv WITH DECORATIVE COVERbCLOSED BOOKbOPEN BOOKbGR",
     "EEN BOOKbBLUE BOOKbORANGE BOOKbBOOKSbNAME BADGEbSCROLLbMEMObTELEPHONE RECEIVERbPAGERbFAX MACHINE",
     "bSATELLITE ANTENNAbPUBLIC ADDRESS LOUDSPEAKERbCHEERING MEGAPHONEbOUTBOX TRAYbINBOX TRAYbPACKAGEb",
     "E-MAIL SYMBOLbINCOMING ENVELOPEbENVELOPE WITH DOWNWARDS ARROW ABOVEbCLOSED MAILBOX WITH LOWERED ",
     "FLAGbouRAISED FLAGbOPEN MAILBOX WITH RAISED FLAGbosLOWERED FLAGbPOSTBOXbrAL HORNbNEWSPAPERbMOBIL",
     "E PHONEbz WITH RIGHTWARDS ARROW AT LEFTbVIBRATION MODEbMOBILE PHONE OFFbNO MOBILE PHONESbANTENNA",
     " WITH BARSbCAMERAbt WITH FLASHbVIDEO CAMERAbTELEVISIONbRADIObVIDEOCASSETTEbFILM PROJECTORbPORTAB",
     "LE STEREOboRAYER BEADSbTWISTED RIGHTWARDS ARROWSbCLOCKWISE RIGHTWARDS AND LEFTWARDS OPEN CIRCLE ",
     "ARROWSbro WITH CIRCLED ONE OVERLAYbxDOWNWARDS AND UPWARDS OPEN CIRCLE ARROWSbANTICLOCKWISE DOWNW",
     "ARDS AND UPWARDS OPEN CIRCLE ARROWSbLOW BRIGHTNESS SYMBOLbHIGH BRIGHTNESS SYMBOLbSPEAKER WITH CA",
     "NCELLATION STROKEbubu WITH ONE SOUND WAVEbonTHREE SOUND WAVESbBATTERYbELECTRIC PLUGbLEFT-POINTIN",
     "G MAGNIFYING GLASSbRIGHT-POINTING MAGNIFYING GLASSbLOCK WITH INK PENbCLOSED LOCK WITH KEYbKEYbLO",
     "CKbOPEN LOCKbBELLbr WITH CANCELLATION STROKEboOOKMARKbLINK SYMBOLbRADIO BUTTONbBACK WITH LEFTWAR",
     "DS ARROW ABOVEbEND WITH LEFTWARDS ARROW ABOVEbON WITH EXCLAMATION MARK WITH LEFT RIGHT ARROW ABO",
     "VEbSOON WITH RIGHTWARDS ARROW ABOVEbTOP WITH UPWARDS ARROW ABOVEbNO ONE UNDER EIGHTEEN SYMBOLbKE",
     "YCAP TENbINPUT SYMBOL FOR LATIN CAPITAL LETTERSboxSMALL LETTERSborNUMBERSborSYMBOLSborLATIN LETT",
     "ERSbFIREbELECTRIC TORCHbWRENCHbHAMMERbNUT AND BOLTbHOCHObPISTOLbMICROSCOPEbTELESCOPEbCRYSTAL BAL",
     "LbSIX POINTED STAR WITH MIDDLE DOTbJAPANESE SYMBOL FOR BEGINNERbTRIDENT EMBLEMbBLACK SQUARE BUTT",
     "ONbWHITE SQUARE BUTTONbLARGE RED CIRCLEbtBLUE CIRCLEbtORANGE DIAMONDbtBLUE DIAMONDbSMALL ORANGE ",
     "DIAMONDbtBLUE DIAMONDbUP-POINTING RED TRIANGLEbDOWN-POINTING RED TRIANGLEbUP-POINTING SMALL RED ",
     "TRIANGLEbDOWN-POINTING SMALL RED TRIANGLEbLOWER RIGHT SHADOWED WHITE CIRCLEbUPPER RIGHT SHADOWED",
     " WHITE CIRCLEbCIRCLED CROSS POMMEEboROSS POMMEE WITH HALF-CIRCLE BELOWbzbNOTCHED LEFT SEMICIRCLE",
     " WITH THREE DOTSbvRIGHT SEMICIRCLE WITH THREE DOTSbSYMBOL FOR MARKS CHAPTERbWHITE LATIN CROSSbHE",
     "AVY LATIN CROSSbCELTIC CROSSbOM SYMBOLbDOVE OF PEACEbKAABAbMOSQUEbSYNAGOGUEbMENORAH WITH NINE BR",
     "ANCHESbBOWL OF HYGIEIAbCLOCK FACE ONE OCLOCKbyTWO OCLOCKbzHREE OCLOCKbyFOUR OCLOCKbzIVE OCLOCKby",
     "SIX OCLOCKbzEVEN OCLOCKbyEIGHT OCLOCKbyNINE OCLOCKbyTEN OCLOCKbyELEVEN OCLOCKbyTWELVE OCLOCKbyON",
     "E-THIRTYbyTWO-THIRTYbzHREE-THIRTYbyFOUR-THIRTYbzIVE-THIRTYbySIX-THIRTYbzEVEN-THIRTYbyEIGHT-THIRT",
     "YbyNINE-THIRTYbyTEN-THIRTYbyELEVEN-THIRTYbyTWELVE-THIRTYbRIGHT SPEAKERbon WITH ONE SOUND WAVEbot",
     "THREE SOUND WAVESbBULLHORNbv WITH SOUND WAVESbRINGING BELLbBOOKbCANDLEbMANTELPIECE CLOCKbBLACK S",
     "KULL AND CROSSBONESbNO PIRACYbHOLEbMAN IN BUSINESS SUIT LEVITATINGbSLEUTH OR SPYbDARK SUNGLASSES",
     "bSPIDERbt WEBbJOYSTICKbMAN DANCINGbLEFT HAND TELEPHONE RECEIVERbTELEPHONE RECEIVER WITH PAGEbRIG",
     "HT HAND TELEPHONE RECEIVERbWHITE TOUCHTONE TELEPHONEbBLACK TOUCHTONE TELEPHONEbTELEPHONE ON TOP ",
     "OF MODEMbCLAMSHELL MOBILE PHONEbBACK OF ENVELOPEbSTAMPED ENVELOPEbENVELOPE WITH LIGHTNINGbFLYING",
     " ENVELOPEbPEN OVER STAMPED ENVELOPEbLINKED PAPERCLIPSbBLACK PUSHPINbLOWER LEFT PENCILbyBALLPOINT",
     " PENbyFOUNTAIN PENbyPAINTBRUSHbyCRAYONboEFT WRITING HANDbTURNED OK HAND SIGNbRAISED HAND WITH FI",
     "NGERS SPLAYEDboEVERSED RAISED HAND WITH FINGERS SPLAYEDbwTHUMBS UP SIGNboqDOWN SIGNbwVICTORY HAN",
     "DbwHAND WITH MIDDLE FINGER EXTENDEDboAISED HAND WITH PART BETWEEN MIDDLE AND RING FINGERSbWHITE ",
     "DOWN POINTING LEFT HAND INDEXbSIDEWAYS WHITE LEFT POINTING INDEXbopRIGHT POINTING INDEXbwBLACK L",
     "EFT POINTING INDEXbopRIGHT POINTING INDEXbBLACK LEFT POINTING BACKHAND INDEXbtRIGHT POINTING BAC",
     "KHAND INDEXbSIDEWAYS WHITE UP POINTING INDEXbopDOWN POINTING INDEXbwBLACK UP POINTING INDEXbopDO",
     "WN POINTING INDEXbBLACK UP POINTING BACKHAND INDEXbtDOWN POINTING BACKHAND INDEXbtHEARTbDESKTOP ",
     "COMPUTERbKEYBOARD AND MOUSEbTHREE NETWORKED COMPUTERSbPRINTERboOCKET CALCULATORbBLACK HARD SHELL",
     " FLOPPY DISKbWHITE HARD SHELL FLOPPY DISKbSOFT SHELL FLOPPY DISKbTAPE CARTRIDGEbWIRED KEYBOARDbO",
     "NE BUTTON MOUSEbTWO BUTTON MOUSEboHREE BUTTON MOUSEboRACKBALLbOLD PERSONAL COMPUTERbHARD DISKbSC",
     "REENbPRINTER ICONbFAX ICONbOPTICAL DISC ICONbDOCUMENT WITH TEXTbos AND PICTUREbooPICTUREbFRAME W",
     "ITH PICTUREbyTILESbyAN XbBLACK FOLDERbFOLDERbOPEN FOLDERbCARD INDEX DIVIDERSbsFILE BOXbFILE CABI",
     "NETbEMPTY NOTEbx PAGEbonDbNOTEbr PAGEbuDbEMPTY DOCUMENTbtPAGEbxSbDOCUMENTbPAGEbrSbWASTEBASKETbSP",
     "IRAL NOTE PADbuCALENDAR PADbDESKTOP WINDOWbMINIMIZEboAXIMIZEbOVERLAPbCLOCKWISE RIGHT AND LEFT SE",
     "MICIRCLE ARROWSboANCELLATION XbINCREASE FONT SIZE SYMBOLbDECREASE FONT SIZE SYMBOLbCOMPRESSIONbO",
     "LD KEYbROLLED-UP NEWSPAPERbPAGE WITH CIRCLED TEXTbSTOCK CHARTbDAGGER KNIFEbLIPSbSPEAKING HEAD IN",
     " SILHOUETTEbTHREE RAYS ABOVEbyBELOWbyLEFTbyRIGHTbLEFT SPEECH BUBBLEbRIGHT SPEECH BUBBLEbTWO SPEE",
     "CH BUBBLESboHREE SPEECH BUBBLESbLEFT THOUGHT BUBBLEbRIGHT THOUGHT BUBBLEbLEFT ANGER BUBBLEbRIGHT",
     " ANGER BUBBLEbMOOD BUBBLEbLIGHTNING MOOD BUBBLEboobBALLOT BOX WITH BALLOTbuSCRIPT XbuBOX WITH SC",
     "RIPT XbwLD SCRIPT XbwX WITH BOLD SCRIPT XbLIGHT CHECK MARKbBALLOT BOX WITH BOLD CHECKbWORLD MAPb",
     "MOUNT FUJIbTOKYO TOWERbSTATUE OF LIBERTYboILHOUETTE OF JAPANbMOYAIbGRINNING FACEbon WITH SMILING",
     " EYESbFACE WITH TEARS OF JOYbSMILING FACE WITH OPEN MOUTHbpp AND SMILING EYESbpuCOLD SWEATbpuTIG",
     "HTLY-CLOSED EYESbosHALObotORNSbWINKING FACEbSMILING FACE WITH SMILING EYESbFACE SAVOURING DELICI",
     "OUS FOODbRELIEVED FACEbSMILING FACE WITH HEART-SHAPED EYESbosSUNGLASSESbqRKING FACEbNEUTRAL FACE",
     "bEXPRESSIONLESS FACEbUNAMUSED FACEbFACE WITH COLD SWEATbPENSIVE FACEbCONFUSED FACEbrOUNDED FACEb",
     "KISSING FACEbFACE THROWING A KISSbKISSING FACE WITH SMILING EYESbosCLOSED EYESbFACE WITH STUCK-O",
     "UT TONGUEbpn AND WINKING EYEbpsTIGHTLY-CLOSED EYESbDISAPPOINTED FACEbWORRIED FACEbANGRY FACEbPOU",
     "TING FACEbCRYING FACEbPERSEVERING FACEbFACE WITH LOOK OF TRIUMPHbDISAPPOINTED BUT RELIEVED FACEb",
     "FROWNING FACE WITH OPEN MOUTHbANGUISHED FACEbFEARFUL FACEbWEARY FACEbSLEEPY FACEbTIRED FACEbGRIM",
     "ACING FACEbLOUDLY CRYING FACEbFACE WITH OPEN MOUTHbHUSHED FACEbFACE WITH OPEN MOUTH AND COLD SWE",
     "ATbsSCREAMING IN FEARbASTONISHED FACEbFLUSHED FACEbSLEEPING FACEbDIZZY FACEbFACE WITHOUT MOUTHbw",
     " MEDICAL MASKbGRINNING CAT FACE WITH SMILING EYESbCAT FACE WITH TEARS OF JOYbSMILING CAT FACE WI",
     "TH OPEN MOUTHbowHEART-SHAPED EYESbCAT FACE WITH WRY SMILEbKISSING CAT FACE WITH CLOSED EYESbPOUT",
     "ING CAT FACEbCRYING CAT FACEbWEARY CAT FACEbSLIGHTLY FROWNING FACEbwSMILING FACEbUPSIDE-DOWN FAC",
     "EbFACE WITH ROLLING EYESbxNO GOOD GESTUREbxOK GESTUREbPERSON BOWING DEEPLYbSEE-NO-EVIL MONKEYbHE",
     "AR-NO-EVIL MONKEYbSPEAK-NO-EVIL MONKEYbHAPPY PERSON RAISING ONE HANDbPERSON RAISING BOTH HANDS I",
     "N CELEBRATIONbuFROWNINGbuWITH POUTING FACEbzFOLDED HANDSbNORTH WEST POINTING LEAFbSOUTH WEST POI",
     "NTING LEAFbNORTH EAST POINTING LEAFbSOUTH EAST POINTING LEAFbTURNED NORTH WEST POINTING LEAFbuSO",
     "UTH WEST POINTING LEAFbuNORTH EAST POINTING LEAFbuSOUTH EAST POINTING LEAFbNORTH WEST POINTING V",
     "INE LEAFbSOUTH WEST POINTING VINE LEAFbNORTH EAST POINTING VINE LEAFbSOUTH EAST POINTING VINE LE"]

def characterNameRecordsPart13 : String :=
  String.join
    ["AFbHEAVY NORTH WEST POINTING VINE LEAFbtSOUTH WEST POINTING VINE LEAFbtNORTH EAST POINTING VINE ",
     "LEAFbtSOUTH EAST POINTING VINE LEAFbNORTH WEST POINTING BUDbSOUTH WEST POINTING BUDbNORTH EAST P",
     "OINTING BUDbSOUTH EAST POINTING BUDbHEAVY NORTH WEST POINTING BUDbtSOUTH WEST POINTING BUDbtNORT",
     "H EAST POINTING BUDbtSOUTH EAST POINTING BUDboOLLOW QUILT SQUARE ORNAMENTbpp IN BLACK SQUAREbSOL",
     "ID QUILT SQUARE ORNAMENTbpo IN BLACK SQUAREbLEFTWARDS ROCKETbUPWARDS ROCKETbRIGHTWARDS ROCKETbDO",
     "WNWARDS ROCKETbSCRIPT LIGATURE ET ORNAMENTbHEAVY SCRIPT LIGATURE ET ORNAMENTbLIGATURE OPEN ET OR",
     "NAMENTbHEAVY LIGATURE OPEN ET ORNAMENTbtAMPERSAND ORNAMENTbSWASH AMPERSAND ORNAMENTboANS-SERIF H",
     "EAVY DOUBLE TURNED COMMA QUOTATION MARK ORNAMENTboyCOMMA QUOTATION MARK ORNAMENTborLOW DOUBLE CO",
     "MMA QUOTATION MARK ORNAMENTbHEAVY INTERROBANG ORNAMENTbSANS-SERIF INTERROBANG ORNAMENTbHEAVY SAN",
     "S-SERIF INTERROBANG ORNAMENTbVERY HEAVY SOLIDUSbyREVERSE SOLIDUSbCHECKER BOARDbREVERSE CHECKER B",
     "OARDboOCKETbHELICOPTERbSTEAM LOCOMOTIVEbRAILWAY CARbHIGH-SPEED TRAINboq WITH BULLET NOSEbTRAINbM",
     "ETRObLIGHT RAILbSTATIONbTRAMbr CARbBUSbONCOMING BUSbTROLLEYBUSbBUS STOPbMINIBUSbAMBULANCEbFIRE E",
     "NGINEbPOLICE CARbONCOMING POLICE CARbTAXIbONCOMING TAXIbAUTOMOBILEbONCOMING AUTOMOBILEbRECREATIO",
     "NAL VEHICLEbDELIVERY TRUCKbARTICULATED LORRYbTRACTORbMONORAILbpUNTAIN RAILWAYbSUSPENSION RAILWAY",
     "bMOUNTAIN CABLEWAYbAERIAL TRAMWAYbSHIPbROWBOATbSPEEDBOATbHORIZONTAL TRAFFIC LIGHTbVERTICAL TRAFF",
     "IC LIGHTbCONSTRUCTION SIGNbPOLICE CARS REVOLVING LIGHTbTRIANGULAR FLAG ON POSTbDOORbNO ENTRY SIG",
     "NbSMOKING SYMBOLbNO SMOKING SYMBOLbPUT LITTER IN ITS PLACE SYMBOLbDO NOT LITTER SYMBOLbPOTABLE W",
     "ATER SYMBOLbNON-POTABLE WATER SYMBOLbBICYCLEbNO BICYCLESbBICYCLISTbMOUNTAIN BICYCLISTbPEDESTRIAN",
     "bNO PEDESTRIANSbCHILDREN CROSSINGbMENS SYMBOLbWOMENS SYMBOLbRESTROOMbBABY SYMBOLbTOILETbWATER CL",
     "OSETbSHOWERbBATHbrTUBbPASSPORT CONTROLbCUSTOMSbBAGGAGE CLAIMbLEFT LUGGAGEbTRIANGLE WITH ROUNDED ",
     "CORNERSbPROHIBITED SIGNbCIRCLED INFORMATION SOURCEbBOYS SYMBOLbGIRLS SYMBOLbCOUCH AND LAMPbSLEEP",
     "ING ACCOMMODATIONboHOPPING BAGSbBELLHOP BELLbpDbPLACE OF WORSHIPbOCTAGONAL SIGNbSHOPPING TROLLEY",
     "boTUPAbPAGODAbHINDU TEMPLEboUTbELEVATORgPLAYGROUND SLIDEbWHEELbRING BUOYbHAMMER AND WRENCHbSHIEL",
     "DbOIL DRUMbMOTORWAYbRAILWAY TRACKbMOTOR BOATbUP-POINTING MILITARY AIRPLANEbzAIRPLANEbzSMALL AIRP",
     "LANEbSMALL AIRPLANEbNORTHEAST-POINTING AIRPLANEbAIRPLANE DEPARTUREbwARRIVINGeSATELLITEbONCOMING ",
     "FIRE ENGINEbDIESEL LOCOMOTIVEbPASSENGER SHIPbSCOOTERbMOTOR SCOOTERbCANOEbSLEDbFLYING SAUCERbSKAT",
     "EBOARDbAUTO RICKSHAWbPICKUP TRUCKbROLLER SKATEeALCHEMICAL SYMBOL FOR QUINTESSENCEbowAIRbowFIREbo",
     "wEARTHbowWATERbowAQUAFORTISbpn REGIAbpt-2bpoVITAEbpt-2bowVINEGARbpq-2bpr3bowSULFURbowPHILOSOPHER",
     "S SULFURbowBLACK SULFURbowMERCURY SUBLIMATEbqn-2bqo3bowCINNABARbowSALTbowNITREbowVITRIOLbpq-2bow",
     "ROCK SALTbps-2bowGOLDbowSILVERbowIRON OREbpr-2bowCROCUS OF IRONbowREGULUS OF IRONbowCOPPER OREbo",
     "wIRON-COPPER OREbowSUBLIMATE OF COPPERbowCROCUS OF COPPERbpz-2boxOPPER ANTIMONIATEbowSALT OF COP",
     "PER ANTIMONIATEboxUBLIMATE OF SALT OF COPPERbowVERDIGRISbowTIN OREbowLEAD OREbowANTIMONY OREbowS",
     "UBLIMATE OF ANTIMONYboxALT OF ANTIMONYboxUBLIMATE OF SALT OF ANTIMONYbowVINEGAR OF ANTIMONYbowRE",
     "GULUS OF ANTIMONYbqp-2bpqbpq-2bpr3bpr4bowALKALIbpp-2bowMARCASITEbowSAL-AMMONIACbowARSENICbowREAL",
     "GARbpq-2bowAURIPIGMENTbowBISMUTH OREbowTARTARbpp-2bowQUICK LIMEbowBORAXbpo-2bpp3bowALUMbowOILbow",
     "SPIRITbowTINCTUREbowGUMbowWAXbowPOWDERbowCALXbowTUTTYbowCAPUT MORTUUMbowSCEPTER OF JOVEbowCADUCE",
     "USbowTRIDENTbowSTARRED TRIDENTbowLODESTONEbowSOAPbowURINEbowHORSE DUNGbowASHESbowPOT ASHESbowBRI",
     "CKbowPOWDERED BRICKbowAMALGAMbowSTRATUM SUPER STRATUMbqr-2boxUBLIMATIONbowPRECIPITATEbowDISTILLb",
     "ozSOLVEbpr-2bowPURIFYboyTREFACTIONbowCRUCIBLEbpr-2bps3bps4bps5bowALEMBICbowBATH OF MARYbprVAPOUR",
     "SbowRETORTbowHOURbowNIGHTbowDAY-NIGHTbowMONTHbowHALF DRAMbpoOUNCEbaBLACK LEFT-POINTING ISOSCELES",
     " RIGHT TRIANGLEbtUP-POINTING ISOSCELES RIGHT TRIANGLEbtRIGHT-POINTING ISOSCELES RIGHT TRIANGLEbt",
     "DOWN-POINTING ISOSCELES RIGHT TRIANGLEbtSLIGHTLY SMALL CIRCLEbMEDIUM BOLD WHITE CIRCLEbBOLD WHIT",
     "E CIRCLEbHEAVY WHITE CIRCLEbVERY HEAVY WHITE CIRCLEbEXTREMELY HEAVY WHITE CIRCLEbWHITE CIRCLE CO",
     "NTAINING BLACK SMALL CIRCLEbROUND TARGETbBLACK TINY SQUAREbtSLIGHTLY SMALL SQUAREbLIGHT WHITE SQ",
     "UAREbMEDIUM WHITE SQUAREbBOLD WHITE SQUAREbHEAVY WHITE SQUAREbVERY HEAVY WHITE SQUAREbEXTREMELY ",
     "HEAVY WHITE SQUAREbWHITE SQUARE CONTAINING BLACK VERY SMALL SQUAREbprMEDIUM SQUAREbSQUARE TARGET",
     "bBLACK TINY DIAMONDbtVERY SMALL DIAMONDbtMEDIUM SMALL DIAMONDbWHITE DIAMOND CONTAINING BLACK VER",
     "Y SMALL DIAMONDbpsMEDIUM DIAMONDbDIAMOND TARGETbBLACK TINY LOZENGEbtVERY SMALL LOZENGEbtMEDIUM S",
     "MALL LOZENGEbWHITE LOZENGE CONTAINING BLACK SMALL LOZENGEbTHIN GREEK CROSSbLIGHT GREEK CROSSbMED",
     "IUM GREEK CROSSbBOLD GREEK CROSSbVERY BOLD GREEK CROSSbsHEAVY GREEK CROSSbEXTREMELY HEAVY GREEK ",
     "CROSSbTHIN SALTIREbLIGHT SALTIREbMEDIUM SALTIREbBOLD SALTIREbHEAVY SALTIREbVERY HEAVY SALTIREbEX",
     "TREMELY HEAVY SALTIREbLIGHT FIVE SPOKED ASTERISKbMEDIUM FIVE SPOKED ASTERISKbBOLD FIVE SPOKED AS",
     "TERISKbHEAVY FIVE SPOKED ASTERISKbVERY HEAVY FIVE SPOKED ASTERISKbEXTREMELY HEAVY FIVE SPOKED AS",
     "TERISKbLIGHT SIX SPOKED ASTERISKbMEDIUM SIX SPOKED ASTERISKbBOLD SIX SPOKED ASTERISKbHEAVY SIX S",
     "POKED ASTERISKbVERY HEAVY SIX SPOKED ASTERISKbEXTREMELY HEAVY SIX SPOKED ASTERISKbLIGHT EIGHT SP",
     "OKED ASTERISKbMEDIUM EIGHT SPOKED ASTERISKbBOLD EIGHT SPOKED ASTERISKbHEAVY EIGHT SPOKED ASTERIS",
     "KbVERY HEAVY EIGHT SPOKED ASTERISKbLIGHT THREE POINTED BLACK STARbMEDIUM THREE POINTED BLACK STA",
     "RbTHREE POINTED BLACK STARbMEDIUM THREE POINTED PINWHEEL STARbLIGHT FOUR POINTED BLACK STARbMEDI",
     "UM FOUR POINTED BLACK STARbFOUR POINTED BLACK STARbMEDIUM FOUR POINTED PINWHEEL STARbREVERSE LIG",
     "HT FOUR POINTED PINWHEEL STARbLIGHT FIVE POINTED BLACK STARbHEAVY FIVE POINTED BLACK STARbMEDIUM",
     " SIX POINTED BLACK STARbHEAVY SIX POINTED BLACK STARbSIX POINTED PINWHEEL STARbMEDIUM EIGHT POIN",
     "TED BLACK STARbHEAVY EIGHT POINTED BLACK STARbVERY HEAVY EIGHT POINTED BLACK STARbHEAVY EIGHT PO",
     "INTED PINWHEEL STARbLIGHT TWELVE POINTED BLACK STARbHEAVY TWELVE POINTED BLACK STARbovPINWHEEL S",
     "TARbCIRCLED TRIANGLEbNEGATIVE CIRCLED TRIANGLEbCIRCLED SQUAREbNEGATIVE CIRCLED SQUAREiLARGE ORAN",
     "GE CIRCLEbtYELLOW CIRCLEbtGREEN CIRCLEbtPURPLE CIRCLEbtBROWN CIRCLEbtRED SQUAREbtBLUE SQUAREbtOR",
     "ANGE SQUAREbtYELLOW SQUAREbtGREEN SQUAREbtPURPLE SQUAREbtBROWN SQUAREfHEAVY EQUALS SIGNbdLEFTWAR",
     "DS ARROW WITH SMALL TRIANGLE ARROWHEADbUPWARDS ARROW WITH SMALL TRIANGLE ARROWHEADbRIGHTWARDS AR",
     "ROW WITH SMALL TRIANGLE ARROWHEADbDOWNWARDS ARROW WITH SMALL TRIANGLE ARROWHEADbLEFTWARDS ARROW ",
     "WITH MEDIUM TRIANGLE ARROWHEADbUPWARDS ARROW WITH MEDIUM TRIANGLE ARROWHEADbRIGHTWARDS ARROW WIT",
     "H MEDIUM TRIANGLE ARROWHEADbDOWNWARDS ARROW WITH MEDIUM TRIANGLE ARROWHEADbLEFTWARDS ARROW WITH ",
     "LARGE TRIANGLE ARROWHEADbUPWARDS ARROW WITH LARGE TRIANGLE ARROWHEADbRIGHTWARDS ARROW WITH LARGE",
     " TRIANGLE ARROWHEADbDOWNWARDS ARROW WITH LARGE TRIANGLE ARROWHEADfLEFTWARDS ARROW WITH SMALL EQU",
     "ILATERAL ARROWHEADbUPWARDS ARROW WITH SMALL EQUILATERAL ARROWHEADbRIGHTWARDS ARROW WITH SMALL EQ",
     "UILATERAL ARROWHEADbDOWNWARDS ARROW WITH SMALL EQUILATERAL ARROWHEADbLEFTWARDS ARROW WITH EQUILA",
     "TERAL ARROWHEADbUPWARDS ARROW WITH EQUILATERAL ARROWHEADbRIGHTWARDS ARROW WITH EQUILATERAL ARROW",
     "HEADbDOWNWARDS ARROW WITH EQUILATERAL ARROWHEADbHEAVY LEFTWARDS ARROW WITH EQUILATERAL ARROWHEAD",
     "btUPWARDS ARROW WITH EQUILATERAL ARROWHEADbtRIGHTWARDS ARROW WITH EQUILATERAL ARROWHEADbtDOWNWAR",
     "DS ARROW WITH EQUILATERAL ARROWHEADbtLEFTWARDS ARROW WITH LARGE EQUILATERAL ARROWHEADbtUPWARDS A",
     "RROW WITH LARGE EQUILATERAL ARROWHEADbtRIGHTWARDS ARROW WITH LARGE EQUILATERAL ARROWHEADbtDOWNWA",
     "RDS ARROW WITH LARGE EQUILATERAL ARROWHEADbLEFTWARDS TRIANGLE-HEADED ARROW WITH NARROW SHAFTbUPW",
     "ARDS TRIANGLE-HEADED ARROW WITH NARROW SHAFTbRIGHTWARDS TRIANGLE-HEADED ARROW WITH NARROW SHAFTb",
     "DOWNWARDS TRIANGLE-HEADED ARROW WITH NARROW SHAFTbLEFTWARDS TRIANGLE-HEADED ARROW WITH MEDIUM SH",
     "AFTbUPWARDS TRIANGLE-HEADED ARROW WITH MEDIUM SHAFTbRIGHTWARDS TRIANGLE-HEADED ARROW WITH MEDIUM",
     " SHAFTbDOWNWARDS TRIANGLE-HEADED ARROW WITH MEDIUM SHAFTbLEFTWARDS TRIANGLE-HEADED ARROW WITH BO",
     "LD SHAFTbUPWARDS TRIANGLE-HEADED ARROW WITH BOLD SHAFTbRIGHTWARDS TRIANGLE-HEADED ARROW WITH BOL",
     "D SHAFTbDOWNWARDS TRIANGLE-HEADED ARROW WITH BOLD SHAFTbLEFTWARDS TRIANGLE-HEADED ARROW WITH HEA",
     "VY SHAFTbUPWARDS TRIANGLE-HEADED ARROW WITH HEAVY SHAFTbRIGHTWARDS TRIANGLE-HEADED ARROW WITH HE",
     "AVY SHAFTbDOWNWARDS TRIANGLE-HEADED ARROW WITH HEAVY SHAFTbLEFTWARDS TRIANGLE-HEADED ARROW WITH ",
     "VERY HEAVY SHAFTbUPWARDS TRIANGLE-HEADED ARROW WITH VERY HEAVY SHAFTbRIGHTWARDS TRIANGLE-HEADED ",
     "ARROW WITH VERY HEAVY SHAFTbDOWNWARDS TRIANGLE-HEADED ARROW WITH VERY HEAVY SHAFTbLEFTWARDS FING",
     "ER-POST ARROWbUPWARDS FINGER-POST ARROWbRIGHTWARDS FINGER-POST ARROWbDOWNWARDS FINGER-POST ARROW",
     "bLEFTWARDS SQUARED ARROWbUPWARDS SQUARED ARROWbRIGHTWARDS SQUARED ARROWbDOWNWARDS SQUARED ARROWb",
     "LEFTWARDS COMPRESSED ARROWbUPWARDS COMPRESSED ARROWbRIGHTWARDS COMPRESSED ARROWbDOWNWARDS COMPRE",
     "SSED ARROWbLEFTWARDS HEAVY COMPRESSED ARROWbUPWARDS HEAVY COMPRESSED ARROWbRIGHTWARDS HEAVY COMP",
     "RESSED ARROWbDOWNWARDS HEAVY COMPRESSED ARROWbLEFTWARDS HEAVY ARROWbUPWARDS HEAVY ARROWbRIGHTWAR",
     "DS HEAVY ARROWbDOWNWARDS HEAVY ARROWjLEFTWARDS SANS-SERIF ARROWbUPWARDS SANS-SERIF ARROWbRIGHTWA",
     "RDS SANS-SERIF ARROWbDOWNWARDS SANS-SERIF ARROWbNORTH WEST SANS-SERIF ARROWbtEAST SANS-SERIF ARR",
     "OWbSOUTH EAST SANS-SERIF ARROWbtWEST SANS-SERIF ARROWbLEFT RIGHT SANS-SERIF ARROWbUP DOWN SANS-S",
     "ERIF ARROWhWIDE-HEADED LEFTWARDS LIGHT BARB ARROWbzUPWARDS LIGHT BARB ARROWbzRIGHTWARDS LIGHT BA",
     "RB ARROWbzDOWNWARDS LIGHT BARB ARROWbzNORTH WEST LIGHT BARB ARROWbosEAST LIGHT BARB ARROWbzSOUTH",
     " EAST LIGHT BARB ARROWbosWEST LIGHT BARB ARROWbzLEFTWARDS BARB ARROWbzUPWARDS BARB ARROWbzRIGHTW",
     "ARDS BARB ARROWbzDOWNWARDS BARB ARROWbzNORTH WEST BARB ARROWbosEAST BARB ARROWbzSOUTH EAST BARB ",
     "ARROWbosWEST BARB ARROWbzLEFTWARDS MEDIUM BARB ARROWbzUPWARDS MEDIUM BARB ARROWbzRIGHTWARDS MEDI",
     "UM BARB ARROWbzDOWNWARDS MEDIUM BARB ARROWbzNORTH WEST MEDIUM BARB ARROWbosEAST MEDIUM BARB ARRO",
     "WbzSOUTH EAST MEDIUM BARB ARROWbosWEST MEDIUM BARB ARROWbzLEFTWARDS HEAVY BARB ARROWbzUPWARDS HE",
     "AVY BARB ARROWbzRIGHTWARDS HEAVY BARB ARROWbzDOWNWARDS HEAVY BARB ARROWbzNORTH WEST HEAVY BARB A",
     "RROWbosEAST HEAVY BARB ARROWbzSOUTH EAST HEAVY BARB ARROWbosWEST HEAVY BARB ARROWbzLEFTWARDS VER",
     "Y HEAVY BARB ARROWbzUPWARDS VERY HEAVY BARB ARROWbzRIGHTWARDS VERY HEAVY BARB ARROWbzDOWNWARDS V",
     "ERY HEAVY BARB ARROWbzNORTH WEST VERY HEAVY BARB ARROWbosEAST VERY HEAVY BARB ARROWbzSOUTH EAST ",
     "VERY HEAVY BARB ARROWbosWEST VERY HEAVY BARB ARROWjLEFTWARDS TRIANGLE ARROWHEADbUPWARDS TRIANGLE",
     " ARROWHEADbRIGHTWARDS TRIANGLE ARROWHEADbDOWNWARDS TRIANGLE ARROWHEADbLEFTWARDS WHITE ARROW WITH",
     "IN TRIANGLE ARROWHEADbUPWARDS WHITE ARROW WITHIN TRIANGLE ARROWHEADbRIGHTWARDS WHITE ARROW WITHI",
     "N TRIANGLE ARROWHEADbDOWNWARDS WHITE ARROW WITHIN TRIANGLE ARROWHEADbLEFTWARDS ARROW WITH NOTCHE",
     "D TAILbUPWARDS ARROW WITH NOTCHED TAILbRIGHTWARDS ARROW WITH NOTCHED TAILbDOWNWARDS ARROW WITH N",
     "OTCHED TAILbHEAVY ARROW SHAFT WIDTH ONEboyTWO THIRDSboyONE HALFbppTHIRDbLEFTWARDS BOTTOM-SHADED ",
     "WHITE ARROWbRIGHTWARDS BOTTOM SHADED WHITE ARROWbLEFTWARDS TOP SHADED WHITE ARROWbRIGHTWARDS TOP",
     " SHADED WHITE ARROWbLEFTWARDS LEFT-SHADED WHITE ARROWbRIGHTWARDS RIGHT-SHADED WHITE ARROWbLEFTWA",
     "RDS RIGHT-SHADED WHITE ARROWbRIGHTWARDS LEFT-SHADED WHITE ARROWbLEFTWARDS BACK-TILTED SHADOWED W",
     "HITE ARROWbRIGHTWARDS BACK-TILTED SHADOWED WHITE ARROWbLEFTWARDS FRONT-TILTED SHADOWED WHITE ARR",
     "OWbRIGHTWARDS FRONT-TILTED SHADOWED WHITE ARROWbWHITE ARROW SHAFT WIDTH ONEboyTWO THIRDSdARROW P",
     "OINTING UPWARDS THEN NORTH WESTbopRIGHTWARDS THEN CURVING SOUTH WESTgbCIRCLED CROSS FORMEE WITH ",
     "FOUR DOTSbpnTWO DOTSboubLEFT HALF CIRCLE WITH FOUR DOTSbowTHREE DOTSboxWO DOTSbowDOTboqbDOWNWARD",
     " FACING HOOKboqNOTCHED HOOKboqHOOK WITH DOTboqNOTCHED HOOK WITH DOTbPINCHED FINGERSbWHITE HEARTb",
     "BROWN HEARTbPINCHING HANDbZIPPER-MOUTH FACEbMONEY-MOUTH FACEbFACE WITH THERMOMETERbNERD FACEbTHI",
     "NKING FACEbFACE WITH HEAD-BANDAGEbROBOT FACEbHUGGING FACEbSIGN OF THE HORNSbCALL ME HANDbRAISED ",
     "BACK OF HANDbLEFT-FACING FISTbRIGHT-FACING FISTbHANDSHAKEbr WITH INDEX AND MIDDLE FINGERS CROSSE",
     "DbI LOVE YOU HAND SIGNbFACE WITH COWBOY HATbCLOWN FACEbNAUSEATED FACEbROLLING ON THE FLOOR LAUGH",
     "INGbDROOLING FACEbLYING FACEbFACE PALMbSNEEZING FACEbFACE WITH ONE EYEBROW RAISEDbGRINNING FACE ",
     "WITH STAR EYESbotONE LARGE AND ONE SMALL EYEbFACE WITH FINGER COVERING CLOSED LIPSbSERIOUS FACE ",
     "WITH SYMBOLS COVERING MOUTHboMILING FACE WITH SMILING EYES AND HAND COVERING MOUTHbFACE WITH OPE",
     "N MOUTH VOMITINGbSHOCKED FACE WITH EXPLODING HEADbPREGNANT WOMANbBREAST-FEEDINGbPALMS UP TOGETHE",
     "RbSELFIEbPRINCEbMAN IN TUXEDOboOTHER CHRISTMASbSHRUGbPERSON DOING CARTWHEELbJUGGLINGbFENCERbMODE",
     "RN PENTATHLONbWRESTLERSboATER POLObHANDBALLbDIVING MASKbWILTED FLOWERbDRUM WITH DRUMSTICKSbCLINK",
     "ING GLASSESbTUMBLER GLASSbSPOONbGOAL NETbRIFLEbFIRST PLACE MEDALbSECOND PLACE MEDALbTHIRD PLACE ",
     "MEDALbBOXING GLOVEbMARTIAL ARTS UNIFORMbCURLING STONEbLACROSSE STICK AND BALLbSOFTBALLbFLYING DI",
     "SCbCROISSANTbAVOCADObCUCUMBERbBACONbPOTATObCARROTbBAGUETTE BREADbGREEN SALADbSHALLOW PAN OF FOOD",
     "boTUFFED FLATBREADbEGGbGLASS OF MILKbPEANUTSbKIWIFRUITbPANCAKESbDUMPLINGbFORTUNE COOKIEbTAKEOUT ",
     "BOXbCHOPSTICKSbBOWL WITH SPOONbCUP WITH STRAWboOCONUTbBROCCOLIbPIEboRETZELbCUT OF MEATbSANDWICHb",
     "CANNED FOODbLEAFY GREENbMANGOboOON CAKEbBAGELbSMILING FACE WITH SMILING EYES AND THREE HEARTSbYA",
     "WNING FACEbSMILING FACE WITH TEARbFACE WITH PARTY HORN AND PARTY HATbxUNEVEN EYES AND WAVY MOUTH",
     "bOVERHEATED FACEbFREEZING FACEbNINJAbDISGUISED FACEbFACE HOLDING BACK TEARSbsWITH PLEADING EYESb",
     "SARIbLAB COATbGOGGLESbHIKING BOOTbFLAT SHOEbCRABbLION FACEbSCORPIONbTURKEYbUNICORN FACEbEAGLEbDU",
     "CKbBATbSHARKbOWLbFOX FACEbBUTTERFLYbDEERbGORILLAbLIZARDbRHINOCEROSbSHRIMPboQUIDbGIRAFFE FACEbZEB",
     "RA FACEbHEDGEHOGbSAUROPODbT-REXbCRICKETbKANGAROObLLAMAbPEACOCKbHIPPOPOTAMUSbPARROTbRACCOONbLOBST",
     "ERbMOSQUITOboICROBEbBADGERbSWANbMAMMOTHbDODObSLOTHbOTTERboRANGUTANbSKUNKbFLAMINGObOYSTERbBEAVERb",
     "oISONbSEALbGUIDE DOGbPROBING CANEbEMOJI COMPONENT RED HAIRboqCURLY HAIRboqBALDboqWHITE HAIRbBONE",
     "bLEGbFOOTbTOOTHbSUPERHERObsVILLAINboAFETY VESTbEAR WITH HEARING AIDbMOTORIZED WHEELCHAIRboANUAL ",
     "WHEELCHAIRboECHANICAL ARMbyLEGbCHEESE WEDGEboUPCAKEbSALT SHAKERbBEVERAGE BOXbGARLICbONIONbFALAFE",
     "LbWAFFLEbBUTTERbMATE DRINKbICE CUBEbBUBBLE TEAbTROLLbSTANDING PERSONbKNEELING PERSONbDEAF PERSON",
     "bFACE WITH MONOCLEbADULTbCHILDbOLDER ADULTbBEARDED PERSONbPERSON WITH HEADSCARFbuIN STEAMY ROOMb",
     "uCLIMBINGbuIN LOTUS POSITIONbMAGEbFAIRYbVAMPIREbMERPERSONbELFbGENIEbZOMBIEbBRAINbORANGE HEARTbBI",
     "LLED CAPbSCARFbGLOVESbCOATbSOCKSbRED GIFT ENVELOPEbFIRECRACKERbJIGSAW PUZZLE PIECEbTEST TUBEbPET",
     "RI DISHbDNA DOUBLE HELIXbCOMPASSbABACUSbFIRE EXTINGUISHERbTOOLBOXbBRICKbMAGNETbLUGGAGEboOTION BO",
     "TTLEbSPOOL OF THREADbBALL OF YARNbSAFETY PINbTEDDY BEARbBROOMboASKETbROLL OF PAPERbBAR OF SOAPbS",
     "PONGEbRECEIPTbNAZAR AMULETboEUTRAL CHESS KINGbooQUEENbooROOKbooBISHOPbooKNIGHTbooPAWNbWHITE CHES",
     "S KNIGHT ROTATED FORTY-FIVE DEGREESbBLACK CHESS KNIGHT ROTATED FORTY-FIVE DEGREESbNEUTRAL CHESS ",
     "KNIGHT ROTATED FORTY-FIVE DEGREESbWHITE CHESS KING ROTATED NINETY DEGREESbzQUEEN ROTATED NINETY ",
     "DEGREESbzROOK ROTATED NINETY DEGREESbzBISHOP ROTATED NINETY DEGREESbzKNIGHT ROTATED NINETY DEGRE",
     "ESbzPAWN ROTATED NINETY DEGREESbBLACK CHESS KING ROTATED NINETY DEGREESbzQUEEN ROTATED NINETY DE",
     "GREESbzROOK ROTATED NINETY DEGREESbzBISHOP ROTATED NINETY DEGREESbzKNIGHT ROTATED NINETY DEGREES",
     "bzPAWN ROTATED NINETY DEGREESbNEUTRAL CHESS KING ROTATED NINETY DEGREESbooQUEEN ROTATED NINETY D",
     "EGREESbooROOK ROTATED NINETY DEGREESbooBISHOP ROTATED NINETY DEGREESbooKNIGHT ROTATED NINETY DEG",
     "REESbooPAWN ROTATED NINETY DEGREESbWHITE CHESS KNIGHT ROTATED ONE HUNDRED THIRTY-FIVE DEGREESbBL",
     "ACK CHESS KNIGHT ROTATED ONE HUNDRED THIRTY-FIVE DEGREESbNEUTRAL CHESS KNIGHT ROTATED ONE HUNDRE",
     "D THIRTY-FIVE DEGREESbWHITE CHESS TURNED KINGbotQUEENbotROOKbotBISHOPbotKNIGHTbotPAWNbBLACK CHES",
     "S TURNED KINGbotQUEENbotROOKbotBISHOPbotKNIGHTbotPAWNbNEUTRAL CHESS TURNED KINGbovQUEENbovROOKbo",
     "vBISHOPbovKNIGHTbovPAWNbWHITE CHESS KNIGHT ROTATED TWO HUNDRED TWENTY-FIVE DEGREESbBLACK CHESS K",
     "NIGHT ROTATED TWO HUNDRED TWENTY-FIVE DEGREESbNEUTRAL CHESS KNIGHT ROTATED TWO HUNDRED TWENTY-FI",
     "VE DEGREESbWHITE CHESS KING ROTATED TWO HUNDRED SEVENTY DEGREESbzQUEEN ROTATED TWO HUNDRED SEVEN",
     "TY DEGREESbzROOK ROTATED TWO HUNDRED SEVENTY DEGREESbzBISHOP ROTATED TWO HUNDRED SEVENTY DEGREES",
     "bzKNIGHT ROTATED TWO HUNDRED SEVENTY DEGREESbzPAWN ROTATED TWO HUNDRED SEVENTY DEGREESbBLACK CHE",
     "SS KING ROTATED TWO HUNDRED SEVENTY DEGREESbzQUEEN ROTATED TWO HUNDRED SEVENTY DEGREESbzROOK ROT",
     "ATED TWO HUNDRED SEVENTY DEGREESbzBISHOP ROTATED TWO HUNDRED SEVENTY DEGREESbzKNIGHT ROTATED TWO",
     " HUNDRED SEVENTY DEGREESbzPAWN ROTATED TWO HUNDRED SEVENTY DEGREESbNEUTRAL CHESS KING ROTATED TW",
     "O HUNDRED SEVENTY DEGREESbooQUEEN ROTATED TWO HUNDRED SEVENTY DEGREESbooROOK ROTATED TWO HUNDRED",
     " SEVENTY DEGREESbooBISHOP ROTATED TWO HUNDRED SEVENTY DEGREESbooKNIGHT ROTATED TWO HUNDRED SEVEN",
     "TY DEGREESbooPAWN ROTATED TWO HUNDRED SEVENTY DEGREESbWHITE CHESS KNIGHT ROTATED THREE HUNDRED F",
     "IFTEEN DEGREESbBLACK CHESS KNIGHT ROTATED THREE HUNDRED FIFTEEN DEGREESbNEUTRAL CHESS KNIGHT ROT",
     "ATED THREE HUNDRED FIFTEEN DEGREESbWHITE CHESS EQUIHOPPERbBLACK CHESS EQUIHOPPERbNEUTRAL CHESS E",
     "QUIHOPPERbWHITE CHESS EQUIHOPPER ROTATED NINETY DEGREESbBLACK CHESS EQUIHOPPER ROTATED NINETY DE",
     "GREESbNEUTRAL CHESS EQUIHOPPER ROTATED NINETY DEGREESbWHITE CHESS KNIGHT-QUEENbotROOKbotBISHOPbB",
     "LACK CHESS KNIGHT-QUEENbotROOKbotBISHOPbaXIANGQI RED GENERALbzMANDARINbzELEPHANTbzHORSEbzCHARIOT",
     "bonANNONbzSOLDIERbvBLACK GENERALbooMANDARINbooELEPHANTbooHORSEbooCHARIOTbopANNONbooSOLDIERdBALLE",
     "T SHOESbONE-PIECE SWIMSUITbBRIEFSbSHORTSbTHONG SANDALeDROP OF BLOODbADHESIVE BANDAGEbSTETHOSCOPE",
     "bX-RAYbCRUTCHeYO-YObKITEbPARACHUTEbBOOMERANGbMAGIC WANDbPINATAbNESTING DOLLSkRINGED PLANETbCHAIR",
     "bRAZORbAXEbDIYA LAMPbBANJObMILITARY HELMETbACCORDIONbLONG DRUMbCOINboARPENTRY SAWbSCREWDRIVERbLA",
     "DDERbHOOKbMIRRORbWINDOWbPLUNGERbSEWING NEEDLEbKNOTbBUCKETbMOUSE TRAPbTOOTHBRUSHbHEADSTONEbPLACAR",
     "DbROCKbMIRROR BALLbIDENTIFICATION CARDbLOW BATTERYbHAMSAeFLYbWORMbBEETLEbCOCKROACHbPOTTED PLANTb",
     "WOODbFEATHERbLOTUSbCORALbEMPTY NESTbNEST WITH EGGSgANATOMICAL HEARTbLUNGSbPEOPLE HUGGINGboREGNAN",
     "T MANbwPERSONboERSON WITH CROWNlBLUEBERRIESboELL PEPPERbOLIVEbFLATBREADbTAMALEbFONDUEbTEAPOTbPOU",
     "RING LIQUIDbBEANSbJARhMELTING FACEbSALUTING FACEbFACE WITH OPEN EYES AND HAND OVER MOUTHbxPEEKIN",
     "G EYEbxDIAGONAL MOUTHbDOTTED LINE FACEbBITING LIPboUBBLESjHAND WITH INDEX FINGER AND THUMB CROSS",
     "EDbRIGHTWARDS HANDbLEFTWARDS HANDbPALM DOWN HANDbsUP HANDbINDEX POINTING AT THE VIEWERbHEART HAN",
     "DSkBLOCK SEXTANT-1boo2boo12boo3boo13boo23boo123boo4boo14boo24boo124boo34boo134boo234boo1234boo5b",
     "oo15boo25boo125boo35boo235boo1235boo45boo145boo245boo1245boo345boo1345boo2345boo12345boo6boo16bo",
     "o26boo126boo36boo136boo236boo1236boo46boo146bop246boo346boo1346boo2346boo12346boo56boo156boo256b",
     "oo1256boo356boo1356boo2356boo12356boo456boo1456boo2456boo12456boo3456boo13456boo23456bLOWER LEFT",
     " BLOCK DIAGONAL LOWER MIDDLE LEFT TO LOWER CENTREbroRIGHTbpnUPPER MIDDLE LEFT TO LOWER CENTREbro",
     "RIGHTbptLEFT TO LOWER CENTREbtRIGHT BLOCK DIAGONAL UPPER MIDDLE LEFT TO UPPER CENTREbrpRIGHTbpoL",
     "OWER MIDDLE LEFT TO UPPER CENTREbrpRIGHTbpuLEFT TO UPPER CENTREbpuMIDDLE LEFT TO UPPER MIDDLE RI",
     "GHTbpuCENTRE TO LOWER MIDDLE RIGHTbpuLEFT TO LOWER MIDDLE RIGHTbpuCENTRE TO UPPER MIDDLE RIGHTbp",
     "uLEFT TO UPPER MIDDLE RIGHTbpuCENTRE TO UPPER RIGHTbtLEFT BLOCK DIAGONAL UPPER CENTRE TO UPPER M",
     "IDDLE RIGHTbptLEFT TO UPPER MIDDLE RIGHTbptCENTRE TO LOWER MIDDLE RIGHTbptLEFT TO LOWER MIDDLE R",
     "IGHTbptCENTRE TO LOWER RIGHTbptMIDDLE LEFT TO LOWER MIDDLE RIGHTbUPPER RIGHT BLOCK DIAGONAL LOWE",
     "R MIDDLE LEFT TO LOWER CENTREbrpRIGHTbpoUPPER MIDDLE LEFT TO LOWER CENTREbrpRIGHTbpuLEFT TO LOWE",
     "R CENTREbtLEFT BLOCK DIAGONAL UPPER MIDDLE LEFT TO UPPER CENTREbroRIGHTbpnLOWER MIDDLE LEFT TO U",
     "PPER CENTREbroRIGHTbptLEFT TO UPPER CENTREbptMIDDLE LEFT TO UPPER MIDDLE RIGHTbptCENTRE TO LOWER",
     " MIDDLE RIGHTbptLEFT TO LOWER MIDDLE RIGHTbptCENTRE TO UPPER MIDDLE RIGHTbptLEFT TO UPPER MIDDLE",
     " RIGHTbptCENTRE TO UPPER RIGHTbtRIGHT BLOCK DIAGONAL UPPER CENTRE TO UPPER MIDDLE RIGHTbpuLEFT T",
     "O UPPER MIDDLE RIGHTbpuCENTRE TO LOWER MIDDLE RIGHTbpuLEFT TO LOWER MIDDLE RIGHTbpuCENTRE TO LOW",
     "ER RIGHTbpuMIDDLE LEFT TO LOWER MIDDLE RIGHTbtAND RIGHT AND LOWER TRIANGULAR THREE QUARTERS BLOC",
     "KbLEFT AND LOWER AND RIGHT TRIANGULAR THREE QUARTERS BLOCKbUPPER AND LEFT AND LOWER TRIANGULAR T",
     "HREE QUARTERS BLOCKbLEFT AND UPPER AND RIGHT TRIANGULAR THREE QUARTERS BLOCKbsTRIANGULAR ONE QUA",
     "RTER BLOCKbUPPER TRIANGULAR ONE QUARTER BLOCKbRIGHT TRIANGULAR ONE QUARTER BLOCKbLOWER TRIANGULA",
     "R ONE QUARTER BLOCKbVERTICAL ONE EIGHTH BLOCK-2bpn3bpn4bpn5bpn6bpn7bHORIZONTAL ONE EIGHTH BLOCK-",
     "2bpp3bpp4bpp5bpp6bpp7bLEFT AND LOWER ONE EIGHTH BLOCKbwUPPER ONE EIGHTH BLOCKbRIGHT AND UPPER ON",
     "E EIGHTH BLOCKbxLOWER ONE EIGHTH BLOCKbUPPER AND LOWER ONE EIGHTH BLOCKbHORIZONTAL ONE EIGHTH BL",
     "OCK-1358bUPPER ONE QUARTER BLOCKbtTHREE EIGHTHS BLOCKbtFIVE EIGHTHS BLOCKbtTHREE QUARTERS BLOCKb",
     "tSEVEN EIGHTHS BLOCKbRIGHT ONE QUARTER BLOCKbtTHREE EIGHTHS BLOCKbtFIVE EIGHTHS BLOCKbtTHREE QUA",
     "RTERS BLOCKbtSEVEN EIGHTHS BLOCKbLEFT HALF MEDIUM SHADEbRIGHT HALF MEDIUM SHADEbUPPER HALF MEDIU",
     "M SHADEbLOWER HALF MEDIUM SHADEbINVERSE MEDIUM SHADEbUPPER HALF BLOCK AND LOWER HALF INVERSE MED",
     "IUM SHADEbyINVERSE MEDIUM SHADE AND LOWER HALF BLOCKcLEFT HALF INVERSE MEDIUM SHADE AND RIGHT HA",
     "LF BLOCKbCHECKER BOARD FILLbINVERSE CHECKER BOARD FILLbHEAVY HORIZONTAL FILLbUPPER LEFT TO LOWER",
     " RIGHT FILLbtRIGHT TO LOWER LEFT FILLbtAND LOWER TRIANGULAR HALF BLOCKbLEFT AND RIGHT TRIANGULAR",
     " HALF BLOCKbUPPER LEFT TRIANGULAR MEDIUM SHADEbtRIGHT TRIANGULAR MEDIUM SHADEbLOWER RIGHT TRIANG",
     "ULAR MEDIUM SHADEbtLEFT TRIANGULAR MEDIUM SHADEbBOX DRAWINGS LIGHT DIAGONAL UPPER CENTRE TO MIDD",
     "LE LEFTbqzRIGHTbppMIDDLE LEFT TO LOWER CENTREbpwRIGHT TO LOWER CENTREbppUPPER CENTRE TO MIDDLE L",
     "EFT TO LOWER CENTREbqzRIGHT TO LOWER CENTREbppMIDDLE LEFT TO LOWER CENTRE TO MIDDLE RIGHTbqrUPPE",
     "R CENTRE TO MIDDLE RIGHTbppUPPER CENTRE TO MIDDLE LEFT AND MIDDLE RIGHT TO LOWER CENTREbqzRIGHT ",
     "AND MIDDLE LEFT TO LOWER CENTREbrsTO LOWER CENTRE TO MIDDLE LEFTbqzLEFT TO LOWER CENTRE TO MIDDL",
     "E RIGHTbppMIDDLE LEFT TO UPPER CENTRE TO MIDDLE RIGHT TO LOWER CENTREbpwRIGHT TO UPPER CENTRE TO",
     " MIDDLE LEFT TO LOWER CENTREbppDIAMONDbotHORIZONTAL WITH VERTICAL STROKEbARROWHEAD-SHAPED POINTE",
     "RbINVERSE CHECK MARKbLEFT HALF RUNNING MANbRIGHT HALF RUNNING MANbINVERSE DOWNWARDS ARROW WITH T",
     "IP LEFTWARDSbLEFTWARDS ARROW AND UPPER AND LOWER ONE EIGHTH BLOCKbRIGHTWARDS ARROW AND UPPER AND",
     " LOWER ONE EIGHTH BLOCKbDOWNWARDS ARROW AND RIGHT ONE EIGHTH BLOCKbUPWARDS ARROW AND RIGHT ONE E",
     "IGHTH BLOCKbLEFT HALF FOLDERbRIGHT HALF FOLDERbVOIDED GREEK CROSSbRIGHT OPEN SQUARED DOTbNEGATIV",
     "E DIAGONAL CROSSbosMIDDLE RIGHT TO LOWER CENTREbosDIAMONDbWHITE HEAVY SALTIRE WITH ROUNDED CORNE",
     "RSbLEFT THIRD WHITE RIGHT POINTING INDEXbMIDDLE THIRD WHITE RIGHT POINTING INDEXbRIGHT THIRD WHI",
     "TE RIGHT POINTING INDEXbNEGATIVE SQUARED QUESTION MARKbSTICK FIGUREbz WITH ARMS RAISEDbonLEANING",
     " LEFTbovRIGHTbonWITH DRESSbWHITE UP-POINTING CHEVRONcmSEGMENTED DIGIT ZEROboqONEboqTWOborHREEboq",
     "FOURborIVEboqSIXborEVENboqEIGHTboqNINEcdekaCJK COMPATIBILITY IDEOGRAPH-2F800bpt1bpt2bpt3bpt4bpt5",
     "bpt6bpt7bpt8bpt9bptAbptBbptCbptDbptEbptFbps10bpt1bpt2bpt3bpt4bpt5bpt6bpt7bpt8bpt9bptAbptBbptCbpt",
     "DbptEbptFbps20bpt1bpt2bpt3bpt4bpt5bpt6bpt7bpt8bpt9bptAbptBbptCbptDbptEbptFbps30bpt1bpt2bpt3bpt4b",
     "pt5bpt6bpt7bpt8bpt9bptAbptBbptCbptDbptEbptFbps40bpt1bpt2bpt3bpt4bpt5bpt6bpt7bpt8bpt9bptAbptBbptC",
     "bptDbptEbptFbps50bpt1bpt2bpt3bpt4bpt5bpt6bpt7bpt8bpt9bptAbptBbptCbptDbptEbptFbps60bpt1bpt2bpt3bp",
     "t4bpt5bpt6bpt7bpt8bpt9bptAbptBbptCbptDbptEbptFbps70bpt1bpt2bpt3bpt4bpt5bpt6bpt7bpt8bpt9bptAbptBb",
     "ptCbptDbptEbptFbps80bpt1bpt2bpt3bpt4bpt5bpt6bpt7bpt8bpt9bptAbptBbptCbptDbptEbptFbps90bpt1bpt2bpt",
     "3bpt4bpt5bpt6bpt7bpt8bpt9bptAbptBbptCbptDbptEbptFbpsA0bpt1bpt2bpt3bpt4bpt5bpt6bpt7bpt8bpt9bptAbp",
     "tBbptCbptDbptEbptFbpsB0bpt1bpt2bpt3bpt4bpt5bpt6bpt7bpt8bpt9bptAbptBbptCbptDbptEbptFbpsC0bpt1bpt2",
     "bpt3bpt4bpt5bpt6bpt7bpt8bpt9bptAbptBbptCbptDbptEbptFbpsD0bpt1bpt2bpt3bpt4bpt5bpt6bpt7bpt8bpt9bpt",
     "AbptBbptCbptDbptEbptFbpsE0bpt1bpt2bpt3bpt4bpt5bpt6bpt7bpt8bpt9bptAbptBbptCbptDbptEbptFbpsF0bpt1b",
     "pt2bpt3bpt4bpt5bpt6bpt7bpt8bpt9bptAbptBbptCbptDbptEbptFbpr900bpt1bpt2bpt3bpt4bpt5bpt6bpt7bpt8bpt",
     "9bptAbptBbptCbptDbptEbptFbps10bpt1bpt2bpt3bpt4bpt5bpt6bpt7bpt8bpt9bptAbptBbptCbptDbptEbptFbps20b",
     "pt1bpt2bpt3bpt4bpt5bpt6bpt7bpt8bpt9bptAbptBbptCbptDbptEbptFbps30bpt1bpt2bpt3bpt4bpt5bpt6bpt7bpt8",
     "bpt9bptAbptBbptCbptDbptEbptFbps40bpt1bpt2bpt3bpt4bpt5bpt6bpt7bpt8bpt9bptAbptBbptCbptDbptEbptFbps",
     "50bpt1bpt2bpt3bpt4bpt5bpt6bpt7bpt8bpt9bptAbptBbptCbptDbptEbptFbps60bpt1bpt2bpt3bpt4bpt5bpt6bpt7b",
     "pt8bpt9bptAbptBbptCbptDbptEbptFbps70bpt1bpt2bpt3bpt4bpt5bpt6bpt7bpt8bpt9bptAbptBbptCbptDbptEbptF",
     "bps80bpt1bpt2bpt3bpt4bpt5bpt6bpt7bpt8bpt9bptAbptBbptCbptDbptEbptFbps90bpt1bpt2bpt3bpt4bpt5bpt6bp",
     "t7bpt8bpt9bptAbptBbptCbptDbptEbptFbpsA0bpt1bpt2bpt3bpt4bpt5bpt6bpt7bpt8bpt9bptAbptBbptCbptDbptEb",
     "ptFbpsB0bpt1bpt2bpt3bpt4bpt5bpt6bpt7bpt8bpt9bptAbptBbptCbptDbptEbptFbpsC0bpt1bpt2bpt3bpt4bpt5bpt",
     "6bpt7bpt8bpt9bptAbptBbptCbptDbptEbptFbpsD0bpt1bpt2bpt3bpt4bpt5bpt6bpt7bpt8bpt9bptAbptBbptCbptDbp",
     "tEbptFbpsE0bpt1bpt2bpt3bpt4bpt5bpt6bpt7bpt8bpt9bptAbptBbptCbptDbptEbptFbpsF0bpt1bpt2bpt3bpt4bpt5",
     "bpt6bpt7bpt8bpt9bptAbptBbptCbptDbptEbptFbprA00bpt1bpt2bpt3bpt4bpt5bpt6bpt7bpt8bpt9bptAbptBbptCbp",
     "tDbptEbptFbps10bpt1bpt2bpt3bpt4bpt5bpt6bpt7bpt8bpt9bptAbptBbptCbptDbmdkhhLANGUAGE TAGcfTAG SPACE",
     "brEXCLAMATION MARKbrQUOTATION MARKbrNUMBER SIGNbrDOLLAR SIGNbrPERCENT SIGNbrAMPERSANDbsPOSTROPHE",
     "brLEFT PARENTHESISbrRIGHT PARENTHESISbrASTERISKbrPLUS SIGNbrCOMMAbrHYPHEN-MINUSbrFULL STOPbrSOLI",
     "DUSbrDIGIT ZERObxONEbxTWObyHREEbxFOURbyIVEbxSIXbyEVENbxEIGHTbxNINEbrCOLONbrSEMICOLONbrLESS-THAN ",
     "SIGNbrEQUALS SIGNbrGREATER-THAN SIGNbrQUESTION MARKbrCOMMERCIAL ATbrLATIN CAPITAL LETTER AbozBbo",
     "zCbozDbozEbozFbozGbozHbozIbozJbozKbozLbozMbozNbozObozPbozQbozRbozSbozTbozUbozVbozWbozXbozYbozZbs",
     "EFT SQUARE BRACKETbrREVERSE SOLIDUSbsIGHT SQUARE BRACKETbrCIRCUMFLEX ACCENTbrLOW LINEbrGRAVE ACC",
     "ENTbrLATIN SMALL LETTER AboxBboxCboxDboxEboxFboxGboxHboxIboxJboxKboxLboxMboxNboxOboxPboxQboxRbox",
     "SboxTboxUboxVboxWboxXboxYboxZbsEFT CURLY BRACKETbrVERTICAL LINEbrRIGHT CURLY BRACKETbrTILDEbCANC",
     "EL TAGjmVARIATION SELECTOR-17bou8bou9bot20bou1bou2bou3bou4bou5bou6bou7bou8bou9bot30bou1bou2bou3b",
     "ou4bou5bou6bou7bou8bou9bot40bou1bou2bou3bou4bou5bou6bou7bou8bou9bot50bou1bou2bou3bou4bou5bou6bou",
     "7bou8bou9bot60bou1bou2bou3bou4bou5bou6bou7bou8bou9bot70bou1bou2bou3bou4bou5bou6bou7bou8bou9bot80",
     "bou1bou2bou3bou4bou5bou6bou7bou8bou9bot90bou1bou2bou3bou4bou5bou6bou7bou8bou9bot100bov1bov2bov3b",
     "ov4bov5bov6bov7bov8bov9bou10bov1bov2bov3bov4bov5bov6bov7bov8bov9bou20bov1bov2bov3bov4bov5bov6bov",
     "7bov8bov9bou30bov1bov2bov3bov4bov5bov6bov7bov8bov9bou40bov1bov2bov3bov4bov5bov6bov7bov8bov9bou50",
     "bov1bov2bov3bov4bov5bov6bov7bov8bov9bou60bov1bov2bov3bov4bov5bov6bov7bov8bov9bou70bov1bov2bov3bo",
     "v4bov5bov6bov7bov8bov9bou80bov1bov2bov3bov4bov5bov6bov7bov8bov9bou90bov1bov2bov3bov4bov5bov6bov7",
     "bov8bov9bot200bov1bov2bov3bov4bov5bov6bov7bov8bov9bou10bov1bov2bov3bov4bov5bov6bov7bov8bov9bou20",
     "bov1bov2bov3bov4bov5bov6bov7bov8bov9bou30bov1bov2bov3bov4bov5bov6bov7bov8bov9bou40bov1bov2bov3bo",
     "v4bov5bov6bov7bov8bov9bou50bov1bov2bov3bov4bov5bov6"]

def characterNameRecords : String :=
  String.join
    [characterNameRecordsPart1, characterNameRecordsPart2, characterNameRecordsPart3, characterNameRecordsPart4, characterNameRecordsPart5, characterNameRecordsPart6, characterNameRecordsPart7, characterNameRecordsPart8, characterNameRecordsPart9, characterNameRecordsPart10, characterNameRecordsPart11, characterNameRecordsPart12, characterNameRecordsPart13]

def nameAliasRecords : String :=
  String.join
    ["aNULaqLbSOHaoTART OF HEADINGbwTEXTapXbEND OF TEXTaoTXboND OF TRANSMISSIONaoOTboNQaqUIRYbACKaqNOW",
     "LEDGEboLERTaBELboACKSPACEaoSbCHARACTER TABULATIONaHORIZONTAL TABULATIONaoTaTABbEND OF LINEaoOLaL",
     "FaoINE FEEDaNEW LINEaoLbLINE TABULATIONaVERTICAL TABULATIONaoTbFFaoORM FEEDbCARRIAGE RETURNaoRbL",
     "OCKING-SHIFT ONEaSHIFT OUTaoObLOCKING-SHIFT ZEROaSHIFT INaoIbDATA LINK ESCAPEaoLEboC1aoEVICE CON",
     "TROL ONEboC2aoEVICE CONTROL TWOboC3aoEVICE CONTROL THREEboC4aoEVICE CONTROL FOURbNAKaoEGATIVE AC",
     "KNOWLEDGEbSYNaqCHRONOUS IDLEbEND OF TRANSMISSION BLOCKaoTBbCANaqCELbEND OF MEDIUMaoOMbSUBaqSTITU",
     "TEbESCaqAPEbFILE SEPARATORaoSaINFORMATION SEPARATOR FOURbGROUP SEPARATORaoSaINFORMATION SEPARATO",
     "R THREEboxWOaRECORD SEPARATORaoSbINFORMATION SEPARATOR ONEaUNIT SEPARATORaoSbSPheDELaqETEbPADaqD",
     "ING CHARACTERbHIGH OCTET PRESETaoOPbBPHaoREAK PERMITTED HEREbNBHaoO BREAK HEREbINDaqEXbNELapXT L",
     "INEbSSAaoTART OF SELECTED AREAbEND OF SELECTED AREAaoSAbCHARACTER TABULATION SETaHORIZONTAL TABU",
     "LATION SETaoTSbCHARACTER TABULATION WITH JUSTIFICATIONaHORIZONTAL TABULATION WITH JUSTIFICATIONa",
     "oTJbLINE TABULATION SETaVERTICAL TABULATION SETaoTSbPARTIAL LINE DOWNaonFORWARDaoLDboARTIAL LINE",
     " BACKWARDaonUPaoLUbREVERSE INDEXavLINE FEEDaoIbSINGLE SHIFT TWOat-SHIFT-2aoS2boINGLE SHIFT THREE",
     "at-SHIFT-3aoS3bDCSaoEVICE CONTROL STRINGbPRIVATE USE ONEay-1aoU1boRIVATE USE TWOay-2aoU2bSET TRA",
     "NSMIT STATEaoTSbCANCEL CHARACTERaoCHbMESSAGE WAITINGaoWbSPAaoTART OF GUARDED AREAawPROTECTED ARE",
     "AbEND OF GUARDED AREAauPROTECTED AREAaoPAbSOSaoTART OF STRINGboGCaoINGLE GRAPHIC CHARACTER INTRO",
     "DUCERboCIaoINGLE CHARACTER INTRODUCERbCONTROL SEQUENCE INTRODUCERaoSIbSTapRING TERMINATORbOPERAT",
     "ING SYSTEM COMMANDaoSCbPMaoRIVACY MESSAGEbAPCapPLICATION PROGRAM COMMANDbNBSPbaSHYbflLATIN CAPIT",
     "AL LETTER GHAbtSMALL LETTER GHAcgmCGJedcALMbfdSYRIAC SUBLINEAR COLON SKEWED LEFTiklKANNADA LETTE",
     "R LLLAcifLAO LETTER FO FONcopAYeyROcyLObkaTIBETAN MARK BKA- SHOG GI MGO RGYANdchHANGUL JONGSEONG",
     " YESIEUNG-KIYEOKbpnSSANGKIYEOKborSSANGYESIEUNGborYESIEUNG-KHIEUKHjdeFVS1bq2bq3bMVSbFVS4mbdZWSPbp",
     "NJbpJbLRMbRLMcbLREbRLEbPDFbLRObRLObNNBSPdjMMSPbWJgLRIbRLIbFSIbPDIbagWEIERSTRASS ELLIPTIC FUNCTIO",
     "NekkMICR ON US SYMBOLbsDASH SYMBOLkliLEFTWARDS TRIANGLE-HEADED ARROW WITH DOUBLE VERTICAL STROKE",
     "cRIGHTWARDS TRIANGLE-HEADED ARROW WITH DOUBLE VERTICAL STROKEbahibYI SYLLABLE ITERATION MARKbcik",
     "MYANMAR LETTER KHAMTI LLAjjhjVS1bp2bp3bp4bp5bp6bp7bp8bp9bp10bq1bq2bq3bq4bq5bq6jPRESENTATION FORM",
     " FOR VERTICAL RIGHT WHITE LENTICULAR BRACKETbekBOMaoYTE ORDER MARKaZWNBSPecdiCUNEIFORM SIGN NU11",
     " TENUbouOVER NU11 BUR OVER BURikelMEDEFAIDRIN CAPITAL LETTER HbpoNGcfzSMALL LETTER HbozNGhidiHEN",
     "TAIGANA LETTER E-1dkidBYZANTINE MUSICAL SYMBOL FTHORA SKLIRON CHROMA VASIScbmhghVS17bq8bq9bp20bq",
     "1bq2bq3bq4bq5bq6bq7bq8bq9bp30bq1bq2bq3bq4bq5bq6bq7bq8bq9bp40bq1bq2bq3bq4bq5bq6bq7bq8bq9bp50bq1bq",
     "2bq3bq4bq5bq6bq7bq8bq9bp60bq1bq2bq3bq4bq5bq6bq7bq8bq9bp70bq1bq2bq3bq4bq5bq6bq7bq8bq9bp80bq1bq2bq",
     "3bq4bq5bq6bq7bq8bq9bp90bq1bq2bq3bq4bq5bq6bq7bq8bq9bp100br1br2br3br4br5br6br7br8br9bq10br1br2br3b",
     "r4br5br6br7br8br9bq20br1br2br3br4br5br6br7br8br9bq30br1br2br3br4br5br6br7br8br9bq40br1br2br3br4b",
     "r5br6br7br8br9bq50br1br2br3br4br5br6br7br8br9bq60br1br2br3br4br5br6br7br8br9bq70br1br2br3br4br5b",
     "r6br7br8br9bq80br1br2br3br4br5br6br7br8br9bq90br1br2br3br4br5br6br7br8br9bp200br1br2br3br4br5br6",
     "br7br8br9bq10br1br2br3br4br5br6br7br8br9bq20br1br2br3br4br5br6br7br8br9bq30br1br2br3br4br5br6br7",
     "br8br9bq40br1br2br3br4br5br6br7br8br9bq50br1br2br3br4br5br6"]

end Obfuscation.Text
