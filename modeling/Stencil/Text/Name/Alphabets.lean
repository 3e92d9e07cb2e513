/-!
# Names of alphabets

The names of the code points from 0 to 13FF: the alphabets of Europe and the Near East and the
scripts of South Asia. The rows are read by the lookup of names.

## Main definitions

* `CodePoint.Name.alphabets` — the rows.
-/

namespace Stencil.CodePoint.Name

/-- The names of the code points from 0 to 13FF. -/
def alphabets : List String :=
  ["20aSPACEaEXCLAMATION MARKaQUOTATION MARKaNUMBER SIGNaDOLLAR SIGNaPERCENT SIGNaAMPERSAND",
  "27aAPOSTROPHEaLEFT PARENTHESISaRIGHT PARENTHESISaASTERISKaPLUS SIGNaCOMMAaHYPHEN-MINUS",
  "2EaFULL STOPaSOLIDUSaDIGIT ZERObONEbTWObTHREEbFOURbFIVEbSIXbSEVENbEIGHTbNINEaCOLONaSEMICOLON",
  "3CaLESS-THAN SIGNaEQUALS SIGNaGREATER-THAN SIGNaQUESTION MARKaCOMMERCIAL AT",
  "41aLATIN CAPITAL LETTER AdBdCdDdEdFdGdHdIdJdKdLdMdNdOdPdQdRdSdTdUdVdWdXdYdZ",
  "5BaLEFT SQUARE BRACKETaREVERSE SOLIDUSaRIGHT SQUARE BRACKETaCIRCUMFLEX ACCENTaLOW LINE",
  "60aGRAVE ACCENTaLATIN SMALL LETTER AdBdCdDdEdFdGdHdIdJdKdLdMdNdOdPdQdRdSdTdUdVdWdXdYdZ",
  "7BaLEFT CURLY BRACKETaVERTICAL LINEaRIGHT CURLY BRACKETaTILDE",
  "A0aNO-BREAK SPACEaINVERTED EXCLAMATION MARKaCENT SIGNaPOUND SIGNaCURRENCY SIGNaYEN SIGN",
  "A6aBROKEN BARaSECTION SIGNaDIAERESISaCOPYRIGHT SIGNaFEMININE ORDINAL INDICATOR",
  "ABaLEFT-POINTING DOUBLE ANGLE QUOTATION MARKaNOT SIGNaSOFT HYPHENaREGISTERED SIGNaMACRON",
  "B0aDEGREE SIGNaPLUS-MINUS SIGNaSUPERSCRIPT TWObTHREEaACUTE ACCENTaMICRO SIGNaPILCROW SIGN",
  "B7aMIDDLE DOTaCEDILLAaSUPERSCRIPT ONEaMASCULINE ORDINAL INDICATOR",
  "BBaRIGHT-POINTING DOUBLE ANGLE QUOTATION MARKaVULGAR FRACTION ONE QUARTERdHALF",
  "BEcTHREE QUARTERSaINVERTED QUESTION MARKaLATIN CAPITAL LETTER A WITH GRAVEfACUTEfCIRCUMFLEX",
  "C3fTILDEfDIAERESISfRING ABOVEdAEdC WITH CEDILLAdE WITH GRAVEfACUTEfCIRCUMFLEXfDIAERESIS",
  "CCdI WITH GRAVEfACUTEfCIRCUMFLEXfDIAERESISdETHdN WITH TILDEdO WITH GRAVEfACUTEfCIRCUMFLEX",
  "D5fTILDEfDIAERESISaMULTIPLICATION SIGNaLATIN CAPITAL LETTER O WITH STROKEdU WITH GRAVEfACUTE",
  "DBfCIRCUMFLEXfDIAERESISdY WITH ACUTEdTHORNbSMALL LETTER SHARP SdA WITH GRAVEfACUTE",
  "E2fCIRCUMFLEXfTILDEfDIAERESISfRING ABOVEdAEdC WITH CEDILLAdE WITH GRAVEfACUTEfCIRCUMFLEX",
  "EBfDIAERESISdI WITH GRAVEfACUTEfCIRCUMFLEXfDIAERESISdETHdN WITH TILDEdO WITH GRAVEfACUTE",
  "F4fCIRCUMFLEXfTILDEfDIAERESISaDIVISION SIGNaLATIN SMALL LETTER O WITH STROKEdU WITH GRAVE",
  "FAfACUTEfCIRCUMFLEXfDIAERESISdY WITH ACUTEdTHORNdY WITH DIAERESIS",
  "100bCAPITAL LETTER A WITH MACRONbSMALL LETTER A WITH MACRONbCAPITAL LETTER A WITH BREVE",
  "103bSMALL LETTER A WITH BREVEbCAPITAL LETTER A WITH OGONEKbSMALL LETTER A WITH OGONEK",
  "106bCAPITAL LETTER C WITH ACUTEbSMALL LETTER C WITH ACUTEbCAPITAL LETTER C WITH CIRCUMFLEX",
  "109bSMALL LETTER C WITH CIRCUMFLEXbCAPITAL LETTER C WITH DOT ABOVE",
  "10BbSMALL LETTER C WITH DOT ABOVEbCAPITAL LETTER C WITH CARONbSMALL LETTER C WITH CARON",
  "10EbCAPITAL LETTER D WITH CARONbSMALL LETTER D WITH CARONbCAPITAL LETTER D WITH STROKE",
  "111bSMALL LETTER D WITH STROKEbCAPITAL LETTER E WITH MACRONbSMALL LETTER E WITH MACRON",
  "114bCAPITAL LETTER E WITH BREVEbSMALL LETTER E WITH BREVEbCAPITAL LETTER E WITH DOT ABOVE",
  "117bSMALL LETTER E WITH DOT ABOVEbCAPITAL LETTER E WITH OGONEKbSMALL LETTER E WITH OGONEK",
  "11AbCAPITAL LETTER E WITH CARONbSMALL LETTER E WITH CARONbCAPITAL LETTER G WITH CIRCUMFLEX",
  "11DbSMALL LETTER G WITH CIRCUMFLEXbCAPITAL LETTER G WITH BREVEbSMALL LETTER G WITH BREVE",
  "120bCAPITAL LETTER G WITH DOT ABOVEbSMALL LETTER G WITH DOT ABOVE",
  "122bCAPITAL LETTER G WITH CEDILLAbSMALL LETTER G WITH CEDILLA",
  "124bCAPITAL LETTER H WITH CIRCUMFLEXbSMALL LETTER H WITH CIRCUMFLEX",
  "126bCAPITAL LETTER H WITH STROKEbSMALL LETTER H WITH STROKEbCAPITAL LETTER I WITH TILDE",
  "129bSMALL LETTER I WITH TILDEbCAPITAL LETTER I WITH MACRONbSMALL LETTER I WITH MACRON",
  "12CbCAPITAL LETTER I WITH BREVEbSMALL LETTER I WITH BREVEbCAPITAL LETTER I WITH OGONEK",
  "12FbSMALL LETTER I WITH OGONEKbCAPITAL LETTER I WITH DOT ABOVEbSMALL LETTER DOTLESS I",
  "132bCAPITAL LIGATURE IJbSMALL LIGATURE IJbCAPITAL LETTER J WITH CIRCUMFLEX",
  "135bSMALL LETTER J WITH CIRCUMFLEXbCAPITAL LETTER K WITH CEDILLAbSMALL LETTER K WITH CEDILLA",
  "138dKRAbCAPITAL LETTER L WITH ACUTEbSMALL LETTER L WITH ACUTEbCAPITAL LETTER L WITH CEDILLA",
  "13CbSMALL LETTER L WITH CEDILLAbCAPITAL LETTER L WITH CARONbSMALL LETTER L WITH CARON",
  "13FbCAPITAL LETTER L WITH MIDDLE DOTbSMALL LETTER L WITH MIDDLE DOT",
  "141bCAPITAL LETTER L WITH STROKEbSMALL LETTER L WITH STROKEbCAPITAL LETTER N WITH ACUTE",
  "144bSMALL LETTER N WITH ACUTEbCAPITAL LETTER N WITH CEDILLAbSMALL LETTER N WITH CEDILLA",
  "147bCAPITAL LETTER N WITH CARONbSMALL LETTER N WITH CARONePRECEDED BY APOSTROPHE",
  "14AbCAPITAL LETTER ENGbSMALL LETTER ENGbCAPITAL LETTER O WITH MACRON",
  "14DbSMALL LETTER O WITH MACRONbCAPITAL LETTER O WITH BREVEbSMALL LETTER O WITH BREVE",
  "150bCAPITAL LETTER O WITH DOUBLE ACUTEbSMALL LETTER O WITH DOUBLE ACUTEbCAPITAL LIGATURE OE",
  "153bSMALL LIGATURE OEbCAPITAL LETTER R WITH ACUTEbSMALL LETTER R WITH ACUTE",
  "156bCAPITAL LETTER R WITH CEDILLAbSMALL LETTER R WITH CEDILLAbCAPITAL LETTER R WITH CARON",
  "159bSMALL LETTER R WITH CARONbCAPITAL LETTER S WITH ACUTEbSMALL LETTER S WITH ACUTE",
  "15CbCAPITAL LETTER S WITH CIRCUMFLEXbSMALL LETTER S WITH CIRCUMFLEX",
  "15EbCAPITAL LETTER S WITH CEDILLAbSMALL LETTER S WITH CEDILLAbCAPITAL LETTER S WITH CARON",
  "161bSMALL LETTER S WITH CARONbCAPITAL LETTER T WITH CEDILLAbSMALL LETTER T WITH CEDILLA",
  "164bCAPITAL LETTER T WITH CARONbSMALL LETTER T WITH CARONbCAPITAL LETTER T WITH STROKE",
  "167bSMALL LETTER T WITH STROKEbCAPITAL LETTER U WITH TILDEbSMALL LETTER U WITH TILDE",
  "16AbCAPITAL LETTER U WITH MACRONbSMALL LETTER U WITH MACRONbCAPITAL LETTER U WITH BREVE",
  "16DbSMALL LETTER U WITH BREVEbCAPITAL LETTER U WITH RING ABOVE",
  "16FbSMALL LETTER U WITH RING ABOVEbCAPITAL LETTER U WITH DOUBLE ACUTE",
  "171bSMALL LETTER U WITH DOUBLE ACUTEbCAPITAL LETTER U WITH OGONEKbSMALL LETTER U WITH OGONEK",
  "174bCAPITAL LETTER W WITH CIRCUMFLEXbSMALL LETTER W WITH CIRCUMFLEX",
  "176bCAPITAL LETTER Y WITH CIRCUMFLEXbSMALL LETTER Y WITH CIRCUMFLEX",
  "178bCAPITAL LETTER Y WITH DIAERESISdZ WITH ACUTEbSMALL LETTER Z WITH ACUTE",
  "17BbCAPITAL LETTER Z WITH DOT ABOVEbSMALL LETTER Z WITH DOT ABOVE",
  "17DbCAPITAL LETTER Z WITH CARONbSMALL LETTER Z WITH CARONdLONG SdB WITH STROKE",
  "181bCAPITAL LETTER B WITH HOOKfTOPBARbSMALL LETTER B WITH TOPBARbCAPITAL LETTER TONE SIX",
  "185bSMALL LETTER TONE SIXbCAPITAL LETTER OPEN OdC WITH HOOKbSMALL LETTER C WITH HOOK",
  "189bCAPITAL LETTER AFRICAN DdD WITH HOOKfTOPBARbSMALL LETTER D WITH TOPBARdTURNED DELTA",
  "18EbCAPITAL LETTER REVERSED EdSCHWAdOPEN EdF WITH HOOKbSMALL LETTER F WITH HOOK",
  "193bCAPITAL LETTER G WITH HOOKdGAMMAbSMALL LETTER HVbCAPITAL LETTER IOTAdI WITH STROKE",
  "198dK WITH HOOKbSMALL LETTER K WITH HOOKdL WITH BARdLAMBDA WITH STROKE",
  "19CbCAPITAL LETTER TURNED MdN WITH LEFT HOOKbSMALL LETTER N WITH LONG RIGHT LEG",
  "19FbCAPITAL LETTER O WITH MIDDLE TILDEfHORNbSMALL LETTER O WITH HORNbCAPITAL LETTER OI",
  "1A3bSMALL LETTER OIbCAPITAL LETTER P WITH HOOKbSMALL LETTER P WITH HOOKbLETTER YR",
  "1A7bCAPITAL LETTER TONE TWObSMALL LETTER TONE TWObCAPITAL LETTER ESH",
  "1AAbLETTER REVERSED ESH LOOPbSMALL LETTER T WITH PALATAL HOOKbCAPITAL LETTER T WITH HOOK",
  "1ADbSMALL LETTER T WITH HOOKbCAPITAL LETTER T WITH RETROFLEX HOOKdU WITH HORN",
  "1B0bSMALL LETTER U WITH HORNbCAPITAL LETTER UPSILONdV WITH HOOKdY WITH HOOK",
  "1B4bSMALL LETTER Y WITH HOOKbCAPITAL LETTER Z WITH STROKEbSMALL LETTER Z WITH STROKE",
  "1B7bCAPITAL LETTER EZHeREVERSEDbSMALL LETTER EZH REVERSEDeWITH TAILbLETTER TWO WITH STROKE",
  "1BCbCAPITAL LETTER TONE FIVEbSMALL LETTER TONE FIVEbLETTER INVERTED GLOTTAL STOP WITH STROKE",
  "1BFcWYNNcDENTAL CLICKcLATERAL CLICKcALVEOLAR CLICKcRETROFLEX CLICK",
  "1C4bCAPITAL LETTER DZ WITH CARONdD WITH SMALL LETTER Z WITH CARONbSMALL LETTER DZ WITH CARON",
  "1C7bCAPITAL LETTER LJdL WITH SMALL LETTER JbSMALL LETTER LJbCAPITAL LETTER NJ",
  "1CBdN WITH SMALL LETTER JbSMALL LETTER NJbCAPITAL LETTER A WITH CARON",
  "1CEbSMALL LETTER A WITH CARONbCAPITAL LETTER I WITH CARONbSMALL LETTER I WITH CARON",
  "1D1bCAPITAL LETTER O WITH CARONbSMALL LETTER O WITH CARONbCAPITAL LETTER U WITH CARON",
  "1D4bSMALL LETTER U WITH CARONbCAPITAL LETTER U WITH DIAERESIS AND MACRON",
  "1D6bSMALL LETTER U WITH DIAERESIS AND MACRONbCAPITAL LETTER U WITH DIAERESIS AND ACUTE",
  "1D8bSMALL LETTER U WITH DIAERESIS AND ACUTEbCAPITAL LETTER U WITH DIAERESIS AND CARON",
  "1DAbSMALL LETTER U WITH DIAERESIS AND CARONbCAPITAL LETTER U WITH DIAERESIS AND GRAVE",
  "1DCbSMALL LETTER U WITH DIAERESIS AND GRAVEdTURNED E",
  "1DEbCAPITAL LETTER A WITH DIAERESIS AND MACRONbSMALL LETTER A WITH DIAERESIS AND MACRON",
  "1E0bCAPITAL LETTER A WITH DOT ABOVE AND MACRONbSMALL LETTER A WITH DOT ABOVE AND MACRON",
  "1E2bCAPITAL LETTER AE WITH MACRONbSMALL LETTER AE WITH MACRONbCAPITAL LETTER G WITH STROKE",
  "1E5bSMALL LETTER G WITH STROKEbCAPITAL LETTER G WITH CARONbSMALL LETTER G WITH CARON",
  "1E8bCAPITAL LETTER K WITH CARONbSMALL LETTER K WITH CARONbCAPITAL LETTER O WITH OGONEK",
  "1EBbSMALL LETTER O WITH OGONEKbCAPITAL LETTER O WITH OGONEK AND MACRON",
  "1EDbSMALL LETTER O WITH OGONEK AND MACRONbCAPITAL LETTER EZH WITH CARON",
  "1EFbSMALL LETTER EZH WITH CARONdJ WITH CARONbCAPITAL LETTER DZdD WITH SMALL LETTER Z",
  "1F3bSMALL LETTER DZbCAPITAL LETTER G WITH ACUTEbSMALL LETTER G WITH ACUTE",
  "1F6bCAPITAL LETTER HWAIRdWYNNdN WITH GRAVEbSMALL LETTER N WITH GRAVE",
  "1FAbCAPITAL LETTER A WITH RING ABOVE AND ACUTEbSMALL LETTER A WITH RING ABOVE AND ACUTE",
  "1FCbCAPITAL LETTER AE WITH ACUTEbSMALL LETTER AE WITH ACUTE",
  "1FEbCAPITAL LETTER O WITH STROKE AND ACUTEbSMALL LETTER O WITH STROKE AND ACUTE",
  "200bCAPITAL LETTER A WITH DOUBLE GRAVEbSMALL LETTER A WITH DOUBLE GRAVE",
  "202bCAPITAL LETTER A WITH INVERTED BREVEbSMALL LETTER A WITH INVERTED BREVE",
  "204bCAPITAL LETTER E WITH DOUBLE GRAVEbSMALL LETTER E WITH DOUBLE GRAVE",
  "206bCAPITAL LETTER E WITH INVERTED BREVEbSMALL LETTER E WITH INVERTED BREVE",
  "208bCAPITAL LETTER I WITH DOUBLE GRAVEbSMALL LETTER I WITH DOUBLE GRAVE",
  "20AbCAPITAL LETTER I WITH INVERTED BREVEbSMALL LETTER I WITH INVERTED BREVE",
  "20CbCAPITAL LETTER O WITH DOUBLE GRAVEbSMALL LETTER O WITH DOUBLE GRAVE",
  "20EbCAPITAL LETTER O WITH INVERTED BREVEbSMALL LETTER O WITH INVERTED BREVE",
  "210bCAPITAL LETTER R WITH DOUBLE GRAVEbSMALL LETTER R WITH DOUBLE GRAVE",
  "212bCAPITAL LETTER R WITH INVERTED BREVEbSMALL LETTER R WITH INVERTED BREVE",
  "214bCAPITAL LETTER U WITH DOUBLE GRAVEbSMALL LETTER U WITH DOUBLE GRAVE",
  "216bCAPITAL LETTER U WITH INVERTED BREVEbSMALL LETTER U WITH INVERTED BREVE",
  "218bCAPITAL LETTER S WITH COMMA BELOWbSMALL LETTER S WITH COMMA BELOW",
  "21AbCAPITAL LETTER T WITH COMMA BELOWbSMALL LETTER T WITH COMMA BELOWbCAPITAL LETTER YOGH",
  "21DbSMALL LETTER YOGHbCAPITAL LETTER H WITH CARONbSMALL LETTER H WITH CARON",
  "220bCAPITAL LETTER N WITH LONG RIGHT LEGbSMALL LETTER D WITH CURLbCAPITAL LETTER OU",
  "223bSMALL LETTER OUbCAPITAL LETTER Z WITH HOOKbSMALL LETTER Z WITH HOOK",
  "226bCAPITAL LETTER A WITH DOT ABOVEbSMALL LETTER A WITH DOT ABOVE",
  "228bCAPITAL LETTER E WITH CEDILLAbSMALL LETTER E WITH CEDILLA",
  "22AbCAPITAL LETTER O WITH DIAERESIS AND MACRONbSMALL LETTER O WITH DIAERESIS AND MACRON",
  "22CbCAPITAL LETTER O WITH TILDE AND MACRONbSMALL LETTER O WITH TILDE AND MACRON",
  "22EbCAPITAL LETTER O WITH DOT ABOVEbSMALL LETTER O WITH DOT ABOVE",
  "230bCAPITAL LETTER O WITH DOT ABOVE AND MACRONbSMALL LETTER O WITH DOT ABOVE AND MACRON",
  "232bCAPITAL LETTER Y WITH MACRONbSMALL LETTER Y WITH MACRONdL WITH CURLdN WITH CURL",
  "236dT WITH CURLdDOTLESS JdDB DIGRAPHdQP DIGRAPHbCAPITAL LETTER A WITH STROKEdC WITH STROKE",
  "23CbSMALL LETTER C WITH STROKEbCAPITAL LETTER L WITH BARdT WITH DIAGONAL STROKE",
  "23FbSMALL LETTER S WITH SWASH TAILdZ WITH SWASH TAILbCAPITAL LETTER GLOTTAL STOP",
  "242bSMALL LETTER GLOTTAL STOPbCAPITAL LETTER B WITH STROKEdU BARdTURNED VdE WITH STROKE",
  "247bSMALL LETTER E WITH STROKEbCAPITAL LETTER J WITH STROKEbSMALL LETTER J WITH STROKE",
  "24AbCAPITAL LETTER SMALL Q WITH HOOK TAILbSMALL LETTER Q WITH HOOK TAIL",
  "24CbCAPITAL LETTER R WITH STROKEbSMALL LETTER R WITH STROKEbCAPITAL LETTER Y WITH STROKE",
  "24FbSMALL LETTER Y WITH STROKEdTURNED AdALPHAdTURNED ALPHAdB WITH HOOKdOPEN OdC WITH CURL",
  "256dD WITH TAILfHOOKdREVERSED EdSCHWAeWITH HOOKdOPEN EdREVERSED OPEN EgWITH HOOK",
  "25EdCLOSED REVERSED OPEN EdDOTLESS J WITH STROKEdG WITH HOOKdSCRIPT GbLETTER SMALL CAPITAL G",
  "263bSMALL LETTER GAMMAdRAMS HORNdTURNED HdH WITH HOOKdHENG WITH HOOKdI WITH STROKEdIOTA",
  "26AbLETTER SMALL CAPITAL IbSMALL LETTER L WITH MIDDLE TILDEfBELTfRETROFLEX HOOKdLEZH",
  "26FdTURNED MfWITH LONG LEGdM WITH HOOKdN WITH LEFT HOOKfRETROFLEX HOOK",
  "274bLETTER SMALL CAPITAL NbSMALL LETTER BARRED ObLETTER SMALL CAPITAL OE",
  "277bSMALL LETTER CLOSED OMEGAdPHIdTURNED RfWITH LONG LEGgHOOKdR WITH LONG LEGfTAILfFISHHOOK",
  "27FdREVERSED R WITH FISHHOOKbLETTER SMALL CAPITAL ReINVERTED RbSMALL LETTER S WITH HOOKdESH",
  "284dDOTLESS J WITH STROKE AND HOOKdSQUAT REVERSED ESHdESH WITH CURLdTURNED T",
  "288dT WITH RETROFLEX HOOKdU BARdUPSILONdV WITH HOOKdTURNED VeWeYbLETTER SMALL CAPITAL Y",
  "290bSMALL LETTER Z WITH RETROFLEX HOOKfCURLdEZHeWITH CURLbLETTER GLOTTAL STOP",
  "295cPHARYNGEAL VOICED FRICATIVEcINVERTED GLOTTAL STOPcSTRETCHED CcBILABIAL CLICK",
  "299cSMALL CAPITAL BbSMALL LETTER CLOSED OPEN EbLETTER SMALL CAPITAL G WITH HOOKeH",
  "29DbSMALL LETTER J WITH CROSSED-TAILdTURNED KbLETTER SMALL CAPITAL L",
  "2A0bSMALL LETTER Q WITH HOOKbLETTER GLOTTAL STOP WITH STROKE",
  "2A2cREVERSED GLOTTAL STOP WITH STROKEbSMALL LETTER DZ DIGRAPHdDEZH DIGRAPH",
  "2A5dDZ DIGRAPH WITH CURLdTS DIGRAPHdTESH DIGRAPHdTC DIGRAPH WITH CURLdFENG DIGRAPH",
  "2AAdLS DIGRAPHdLZ DIGRAPHbLETTER BILABIAL PERCUSSIVEcBIDENTAL PERCUSSIVE",
  "2AEbSMALL LETTER TURNED H WITH FISHHOOKhAND TAILaMODIFIER LETTER SMALL HeWITH HOOKdJdR",
  "2B4dTURNED RfWITH HOOKdCAPITAL INVERTED RdWdYcPRIMEcDOUBLE PRIMEcTURNED COMMAcAPOSTROPHE",
  "2BDcREVERSED COMMAcRIGHT HALF RINGcLEFT HALF RINGcGLOTTAL STOPcREVERSED GLOTTAL STOP",
  "2C2cLEFT ARROWHEADcRIGHT ARROWHEADcUP ARROWHEADcDOWN ARROWHEADcCIRCUMFLEX ACCENTaCARON",
  "2C8aMODIFIER LETTER VERTICAL LINEcMACRONcACUTE ACCENTcGRAVE ACCENTcLOW VERTICAL LINEdMACRON",
  "2CEdGRAVE ACCENTdACUTE ACCENTcTRIANGULAR COLONcHALF TRIANGULAR COLONcCENTRED RIGHT HALF RING",
  "2D3dLEFT HALF RINGcUP TACKcDOWN TACKcPLUS SIGNcMINUS SIGNaBREVEaDOT ABOVEaRING ABOVEaOGONEK",
  "2DCaSMALL TILDEaDOUBLE ACUTE ACCENTaMODIFIER LETTER RHOTIC HOOKcCROSS ACCENTcSMALL GAMMAdLdS",
  "2E3dXdREVERSED GLOTTAL STOPcEXTRA-HIGH TONE BARcHIGH TONE BARcMID TONE BARcLOW TONE BAR",
  "2E9cEXTRA-LOW TONE BARcYIN DEPARTING TONE MARKcYANG DEPARTING TONE MARKcVOICINGcUNASPIRATED",
  "2EEcDOUBLE APOSTROPHEcLOW DOWN ARROWHEADdUP ARROWHEADdLEFT ARROWHEADdRIGHT ARROWHEADdRING",
  "2F4cMIDDLE GRAVE ACCENTdDOUBLE GRAVE ACCENTeACUTE ACCENTcLOW TILDEcRAISED COLON",
  "2F9cBEGIN HIGH TONEcEND HIGH TONEcBEGIN LOW TONEcEND LOW TONEcSHELFcOPEN SHELF",
  "2FFcLOW LEFT ARROWaCOMBINING GRAVE ACCENTbACUTE ACCENTbCIRCUMFLEX ACCENTbTILDEbMACRON",
  "305bOVERLINEbBREVEbDOT ABOVEbDIAERESISbHOOK ABOVEbRING ABOVEbDOUBLE ACUTE ACCENTbCARON",
  "30DbVERTICAL LINE ABOVEbDOUBLE VERTICAL LINE ABOVEcGRAVE ACCENTbCANDRABINDUbINVERTED BREVE",
  "312bTURNED COMMA ABOVEbCOMMA ABOVEbREVERSED COMMA ABOVEbCOMMA ABOVE RIGHTbGRAVE ACCENT BELOW",
  "317bACUTE ACCENT BELOWbLEFT TACK BELOWbRIGHT TACK BELOWbLEFT ANGLE ABOVEbHORN",
  "31CbLEFT HALF RING BELOWbUP TACK BELOWbDOWN TACK BELOWbPLUS SIGN BELOWbMINUS SIGN BELOW",
  "321bPALATALIZED HOOK BELOWbRETROFLEX HOOK BELOWbDOT BELOWbDIAERESIS BELOWbRING BELOW",
  "326bCOMMA BELOWbCEDILLAbOGONEKbVERTICAL LINE BELOWbBRIDGE BELOWbINVERTED DOUBLE ARCH BELOW",
  "32CbCARON BELOWbCIRCUMFLEX ACCENT BELOWbBREVE BELOWbINVERTED BREVE BELOWbTILDE BELOW",
  "331bMACRON BELOWbLOW LINEbDOUBLE LOW LINEbTILDE OVERLAYbSHORT STROKE OVERLAY",
  "336bLONG STROKE OVERLAYbSHORT SOLIDUS OVERLAYbLONG SOLIDUS OVERLAYbRIGHT HALF RING BELOW",
  "33AbINVERTED BRIDGE BELOWbSQUARE BELOWbSEAGULL BELOWbX ABOVEbVERTICAL TILDEbDOUBLE OVERLINE",
  "340bGRAVE TONE MARKbACUTE TONE MARKbGREEK PERISPOMENIcKORONIScDIALYTIKA TONOScYPOGEGRAMMENI",
  "346bBRIDGE ABOVEbEQUALS SIGN BELOWbDOUBLE VERTICAL LINE BELOWbLEFT ANGLE BELOW",
  "34AbNOT TILDE ABOVEbHOMOTHETIC ABOVEbALMOST EQUAL TO ABOVEbLEFT RIGHT ARROW BELOW",
  "34EbUPWARDS ARROW BELOWbGRAPHEME JOINERbRIGHT ARROWHEAD ABOVEbLEFT HALF RING ABOVEbFERMATA",
  "353bX BELOWbLEFT ARROWHEAD BELOWbRIGHT ARROWHEAD BELOWdAND UP ARROWHEAD BELOW",
  "357cHALF RING ABOVEbDOT ABOVE RIGHTbASTERISK BELOWbDOUBLE RING BELOWbZIGZAG ABOVE",
  "35CbDOUBLE BREVE BELOWdcMACRONdBELOWcTILDEcINVERTED BREVEcRIGHTWARDS ARROW BELOW",
  "363bLATIN SMALL LETTER AeEeIeOeUeCeDeHeMeReTeVeXaGREEK CAPITAL LETTER HETAbSMALL LETTER HETA",
  "372bCAPITAL LETTER ARCHAIC SAMPIbSMALL LETTER ARCHAIC SAMPIbNUMERAL SIGNbLOWER NUMERAL SIGN",
  "376bCAPITAL LETTER PAMPHYLIAN DIGAMMAbSMALL LETTER PAMPHYLIAN DIGAMMA",
  "37AbYPOGEGRAMMENIbSMALL REVERSED LUNATE SIGMA SYMBOLcDOTTED LUNATE SIGMA SYMBOL",
  "37DcREVERSED DOTTED LUNATE SIGMA SYMBOLbQUESTION MARKbCAPITAL LETTER YOT",
  "384bTONOSbDIALYTIKA TONOSbCAPITAL LETTER ALPHA WITH TONOSbANO TELEIA",
  "388bCAPITAL LETTER EPSILON WITH TONOSdETA WITH TONOSdIOTA WITH TONOS",
  "38CdOMICRON WITH TONOS",
  "38EdUPSILON WITH TONOSdOMEGA WITH TONOSbSMALL LETTER IOTA WITH DIALYTIKA AND TONOS",
  "391bCAPITAL LETTER ALPHAdBETAdGAMMAdDELTAdEPSILONdZETAdETAdTHETAdIOTAdKAPPAdLAMDAdMUdNUdXI",
  "39FdOMICRONdPIdRHO",
  "3A3dSIGMAdTAUdUPSILONdPHIdCHIdPSIdOMEGAdIOTA WITH DIALYTIKAdUPSILON WITH DIALYTIKA",
  "3ACbSMALL LETTER ALPHA WITH TONOSdEPSILON WITH TONOSdETA WITH TONOSdIOTA WITH TONOS",
  "3B0dUPSILON WITH DIALYTIKA AND TONOSdALPHAdBETAdGAMMAdDELTAdEPSILONdZETAdETAdTHETAdIOTA",
  "3BAdKAPPAdLAMDAdMUdNUdXIdOMICRONdPIdRHOdFINAL SIGMAdSIGMAdTAUdUPSILONdPHIdCHIdPSIdOMEGA",
  "3CAdIOTA WITH DIALYTIKAdUPSILON WITH DIALYTIKAdOMICRON WITH TONOSdUPSILON WITH TONOS",
  "3CEdOMEGA WITH TONOSbCAPITAL KAI SYMBOLbBETA SYMBOLbTHETA SYMBOLbUPSILON WITH HOOK SYMBOL",
  "3D3dACUTE AND HOOK SYMBOLdDIAERESIS AND HOOK SYMBOLbPHI SYMBOLbPI SYMBOLbKAI SYMBOL",
  "3D8bLETTER ARCHAIC KOPPAbSMALL LETTER ARCHAIC KOPPAbLETTER STIGMAbSMALL LETTER STIGMA",
  "3DCbLETTER DIGAMMAbSMALL LETTER DIGAMMAbLETTER KOPPAbSMALL LETTER KOPPAbLETTER SAMPI",
  "3E1bSMALL LETTER SAMPIaCOPTIC CAPITAL LETTER SHEIbSMALL LETTER SHEIbCAPITAL LETTER FEI",
  "3E5bSMALL LETTER FEIbCAPITAL LETTER KHEIbSMALL LETTER KHEIbCAPITAL LETTER HORI",
  "3E9bSMALL LETTER HORIbCAPITAL LETTER GANGIAbSMALL LETTER GANGIAbCAPITAL LETTER SHIMA",
  "3EDbSMALL LETTER SHIMAbCAPITAL LETTER DEIbSMALL LETTER DEIaGREEK KAPPA SYMBOLbRHO SYMBOL",
  "3F2bLUNATE SIGMA SYMBOLbLETTER YOTbCAPITAL THETA SYMBOLbLUNATE EPSILON SYMBOL",
  "3F6bREVERSED LUNATE EPSILON SYMBOLbCAPITAL LETTER SHObSMALL LETTER SHO",
  "3F9bCAPITAL LUNATE SIGMA SYMBOLcLETTER SANbSMALL LETTER SANbRHO WITH STROKE SYMBOL",
  "3FDbCAPITAL REVERSED LUNATE SIGMA SYMBOLcDOTTED LUNATE SIGMA SYMBOL",
  "3FFcREVERSED DOTTED LUNATE SIGMA SYMBOLaCYRILLIC CAPITAL LETTER IE WITH GRAVEdIOdDJEdGJE",
  "404dUKRAINIAN IEdDZEdBYELORUSSIAN-UKRAINIAN IdYIdJEdLJEdNJEdTSHEdKJEdI WITH GRAVEdSHORT U",
  "40FdDZHEdAdBEdVEdGHEdDEdIEdZHEdZEdIdSHORT IdKAdELdEMdENdOdPEdERdESdTEdUdEFdHAdTSEdCHEdSHA",
  "429dSHCHAdHARD SIGNdYERUdSOFT SIGNdEdYUdYAbSMALL LETTER AdBEdVEdGHEdDEdIEdZHEdZEdIdSHORT I",
  "43AdKAdELdEMdENdOdPEdERdESdTEdUdEFdHAdTSEdCHEdSHAdSHCHAdHARD SIGNdYERUdSOFT SIGNdEdYUdYA",
  "450dIE WITH GRAVEdIOdDJEdGJEdUKRAINIAN IEdDZEdBYELORUSSIAN-UKRAINIAN IdYIdJEdLJEdNJEdTSHE",
  "45CdKJEdI WITH GRAVEdSHORT UdDZHEbCAPITAL LETTER OMEGAbSMALL LETTER OMEGAbCAPITAL LETTER YAT",
  "463bSMALL LETTER YATbCAPITAL LETTER IOTIFIED EbSMALL LETTER IOTIFIED E",
  "466bCAPITAL LETTER LITTLE YUSbSMALL LETTER LITTLE YUSbCAPITAL LETTER IOTIFIED LITTLE YUS",
  "469bSMALL LETTER IOTIFIED LITTLE YUSbCAPITAL LETTER BIG YUSbSMALL LETTER BIG YUS",
  "46CbCAPITAL LETTER IOTIFIED BIG YUSbSMALL LETTER IOTIFIED BIG YUSbCAPITAL LETTER KSI",
  "46FbSMALL LETTER KSIbCAPITAL LETTER PSIbSMALL LETTER PSIbCAPITAL LETTER FITA",
  "473bSMALL LETTER FITAbCAPITAL LETTER IZHITSAbSMALL LETTER IZHITSA",
  "476bCAPITAL LETTER IZHITSA WITH DOUBLE GRAVE ACCENT",
  "477bSMALL LETTER IZHITSA WITH DOUBLE GRAVE ACCENTbCAPITAL LETTER UKbSMALL LETTER UK",
  "47AbCAPITAL LETTER ROUND OMEGAbSMALL LETTER ROUND OMEGAbCAPITAL LETTER OMEGA WITH TITLO",
  "47DbSMALL LETTER OMEGA WITH TITLObCAPITAL LETTER OTbSMALL LETTER OTbCAPITAL LETTER KOPPA",
  "481bSMALL LETTER KOPPAbTHOUSANDS SIGNaCOMBINING CYRILLIC TITLOcPALATALIZATIONcDASIA PNEUMATA",
  "486cPSILI PNEUMATAcPOKRYTIEcHUNDRED THOUSANDS SIGNcMILLIONS SIGN",
  "48AaCYRILLIC CAPITAL LETTER SHORT I WITH TAILbSMALL LETTER SHORT I WITH TAIL",
  "48CbCAPITAL LETTER SEMISOFT SIGNbSMALL LETTER SEMISOFT SIGNbCAPITAL LETTER ER WITH TICK",
  "48FbSMALL LETTER ER WITH TICKbCAPITAL LETTER GHE WITH UPTURNbSMALL LETTER GHE WITH UPTURN",
  "492bCAPITAL LETTER GHE WITH STROKEbSMALL LETTER GHE WITH STROKE",
  "494bCAPITAL LETTER GHE WITH MIDDLE HOOKbSMALL LETTER GHE WITH MIDDLE HOOK",
  "496bCAPITAL LETTER ZHE WITH DESCENDERbSMALL LETTER ZHE WITH DESCENDER",
  "498bCAPITAL LETTER ZE WITH DESCENDERbSMALL LETTER ZE WITH DESCENDER",
  "49AbCAPITAL LETTER KA WITH DESCENDERbSMALL LETTER KA WITH DESCENDER",
  "49CbCAPITAL LETTER KA WITH VERTICAL STROKEbSMALL LETTER KA WITH VERTICAL STROKE",
  "49EbCAPITAL LETTER KA WITH STROKEbSMALL LETTER KA WITH STROKEbCAPITAL LETTER BASHKIR KA",
  "4A1bSMALL LETTER BASHKIR KAbCAPITAL LETTER EN WITH DESCENDERbSMALL LETTER EN WITH DESCENDER",
  "4A4bCAPITAL LIGATURE EN GHEbSMALL LIGATURE EN GHEbCAPITAL LETTER PE WITH MIDDLE HOOK",
  "4A7bSMALL LETTER PE WITH MIDDLE HOOKbCAPITAL LETTER ABKHASIAN HAbSMALL LETTER ABKHASIAN HA",
  "4AAbCAPITAL LETTER ES WITH DESCENDERbSMALL LETTER ES WITH DESCENDER",
  "4ACbCAPITAL LETTER TE WITH DESCENDERbSMALL LETTER TE WITH DESCENDER",
  "4AEbCAPITAL LETTER STRAIGHT UbSMALL LETTER STRAIGHT UbCAPITAL LETTER STRAIGHT U WITH STROKE",
  "4B1bSMALL LETTER STRAIGHT U WITH STROKEbCAPITAL LETTER HA WITH DESCENDER",
  "4B3bSMALL LETTER HA WITH DESCENDERbCAPITAL LIGATURE TE TSEbSMALL LIGATURE TE TSE",
  "4B6bCAPITAL LETTER CHE WITH DESCENDERbSMALL LETTER CHE WITH DESCENDER",
  "4B8bCAPITAL LETTER CHE WITH VERTICAL STROKEbSMALL LETTER CHE WITH VERTICAL STROKE",
  "4BAbCAPITAL LETTER SHHAbSMALL LETTER SHHAbCAPITAL LETTER ABKHASIAN CHE",
  "4BDbSMALL LETTER ABKHASIAN CHEbCAPITAL LETTER ABKHASIAN CHE WITH DESCENDER",
  "4BFbSMALL LETTER ABKHASIAN CHE WITH DESCENDERbLETTER PALOCHKAbCAPITAL LETTER ZHE WITH BREVE",
  "4C2bSMALL LETTER ZHE WITH BREVEbCAPITAL LETTER KA WITH HOOKbSMALL LETTER KA WITH HOOK",
  "4C5bCAPITAL LETTER EL WITH TAILbSMALL LETTER EL WITH TAILbCAPITAL LETTER EN WITH HOOK",
  "4C8bSMALL LETTER EN WITH HOOKbCAPITAL LETTER EN WITH TAILbSMALL LETTER EN WITH TAIL",
  "4CBbCAPITAL LETTER KHAKASSIAN CHEbSMALL LETTER KHAKASSIAN CHEbCAPITAL LETTER EM WITH TAIL",
  "4CEbSMALL LETTER EM WITH TAILdPALOCHKAbCAPITAL LETTER A WITH BREVEbSMALL LETTER A WITH BREVE",
  "4D2bCAPITAL LETTER A WITH DIAERESISbSMALL LETTER A WITH DIAERESISbCAPITAL LIGATURE A IE",
  "4D5bSMALL LIGATURE A IEbCAPITAL LETTER IE WITH BREVEbSMALL LETTER IE WITH BREVE",
  "4D8bCAPITAL LETTER SCHWAbSMALL LETTER SCHWAbCAPITAL LETTER SCHWA WITH DIAERESIS",
  "4DBbSMALL LETTER SCHWA WITH DIAERESISbCAPITAL LETTER ZHE WITH DIAERESIS",
  "4DDbSMALL LETTER ZHE WITH DIAERESISbCAPITAL LETTER ZE WITH DIAERESIS",
  "4DFbSMALL LETTER ZE WITH DIAERESISbCAPITAL LETTER ABKHASIAN DZEbSMALL LETTER ABKHASIAN DZE",
  "4E2bCAPITAL LETTER I WITH MACRONbSMALL LETTER I WITH MACRONbCAPITAL LETTER I WITH DIAERESIS",
  "4E5bSMALL LETTER I WITH DIAERESISbCAPITAL LETTER O WITH DIAERESIS",
  "4E7bSMALL LETTER O WITH DIAERESISbCAPITAL LETTER BARRED ObSMALL LETTER BARRED O",
  "4EAbCAPITAL LETTER BARRED O WITH DIAERESISbSMALL LETTER BARRED O WITH DIAERESIS",
  "4ECbCAPITAL LETTER E WITH DIAERESISbSMALL LETTER E WITH DIAERESIS",
  "4EEbCAPITAL LETTER U WITH MACRONbSMALL LETTER U WITH MACRONbCAPITAL LETTER U WITH DIAERESIS",
  "4F1bSMALL LETTER U WITH DIAERESISbCAPITAL LETTER U WITH DOUBLE ACUTE",
  "4F3bSMALL LETTER U WITH DOUBLE ACUTEbCAPITAL LETTER CHE WITH DIAERESIS",
  "4F5bSMALL LETTER CHE WITH DIAERESISbCAPITAL LETTER GHE WITH DESCENDER",
  "4F7bSMALL LETTER GHE WITH DESCENDERbCAPITAL LETTER YERU WITH DIAERESIS",
  "4F9bSMALL LETTER YERU WITH DIAERESISbCAPITAL LETTER GHE WITH STROKE AND HOOK",
  "4FBbSMALL LETTER GHE WITH STROKE AND HOOKbCAPITAL LETTER HA WITH HOOK",
  "4FDbSMALL LETTER HA WITH HOOKbCAPITAL LETTER HA WITH STROKEbSMALL LETTER HA WITH STROKE",
  "500bCAPITAL LETTER KOMI DEbSMALL LETTER KOMI DEbCAPITAL LETTER KOMI DJE",
  "503bSMALL LETTER KOMI DJEbCAPITAL LETTER KOMI ZJEbSMALL LETTER KOMI ZJE",
  "506bCAPITAL LETTER KOMI DZJEbSMALL LETTER KOMI DZJEbCAPITAL LETTER KOMI LJE",
  "509bSMALL LETTER KOMI LJEbCAPITAL LETTER KOMI NJEbSMALL LETTER KOMI NJE",
  "50CbCAPITAL LETTER KOMI SJEbSMALL LETTER KOMI SJEbCAPITAL LETTER KOMI TJE",
  "50FbSMALL LETTER KOMI TJEbCAPITAL LETTER REVERSED ZEbSMALL LETTER REVERSED ZE",
  "512bCAPITAL LETTER EL WITH HOOKbSMALL LETTER EL WITH HOOKbCAPITAL LETTER LHA",
  "515bSMALL LETTER LHAbCAPITAL LETTER RHAbSMALL LETTER RHAbCAPITAL LETTER YAEbSMALL LETTER YAE",
  "51AbCAPITAL LETTER QAbSMALL LETTER QAbCAPITAL LETTER WEbSMALL LETTER WE",
  "51EbCAPITAL LETTER ALEUT KAbSMALL LETTER ALEUT KAbCAPITAL LETTER EL WITH MIDDLE HOOK",
  "521bSMALL LETTER EL WITH MIDDLE HOOKbCAPITAL LETTER EN WITH MIDDLE HOOK",
  "523bSMALL LETTER EN WITH MIDDLE HOOKbCAPITAL LETTER PE WITH DESCENDER",
  "525bSMALL LETTER PE WITH DESCENDERbCAPITAL LETTER SHHA WITH DESCENDER",
  "527bSMALL LETTER SHHA WITH DESCENDERbCAPITAL LETTER EN WITH LEFT HOOK",
  "529bSMALL LETTER EN WITH LEFT HOOKbCAPITAL LETTER DZZHEbSMALL LETTER DZZHE",
  "52CbCAPITAL LETTER DCHEbSMALL LETTER DCHEbCAPITAL LETTER EL WITH DESCENDER",
  "52FbSMALL LETTER EL WITH DESCENDER",
  "531aARMENIAN CAPITAL LETTER AYBdBENdGIMdDAdECHdZAdEHdETdTOdZHEdINIdLIWNdXEHdCAdKENdHOdJA",
  "542dGHADdCHEHdMENdYIdNOWdSHAdVOdCHAdPEHdJHEHdRAdSEHdVEWdTIWNdREHdCOdYIWNdPIWRdKEHdOHdFEH",
  "559bMODIFIER LETTER LEFT HALF RINGbAPOSTROPHEbEMPHASIS MARKbEXCLAMATION MARKbCOMMA",
  "55EbQUESTION MARKbABBREVIATION MARKbSMALL LETTER TURNED AYBdAYBdBENdGIMdDAdECHdZAdEHdETdTO",
  "56AdZHEdINIdLIWNdXEHdCAdKENdHOdJAdGHADdCHEHdMENdYIdNOWdSHAdVOdCHAdPEHdJHEHdRAdSEHdVEWdTIWN",
  "580dREHdCOdYIWNdPIWRdKEHdOHdFEHcLIGATURE ECH YIWNcLETTER YI WITH STROKEbFULL STOPbHYPHEN",
  "58DaRIGHT-FACING ARMENIAN ETERNITY SIGNaLEFT-FACING ARMENIAN ETERNITY SIGN",
  "58FaARMENIAN DRAM SIGN",
  "591aHEBREW ACCENT ETNAHTAcSEGOLcSHALSHELETcZAQEF QATANdGADOLcTIPEHAcREVIAcZARQAcPASHTAcYETIV",
  "59BcTEVIRcGERESHdMUQDAMcGERSHAYIMcQARNEY PARAcTELISHA GEDOLAcPAZERcATNAH HAFUKHcMUNAH",
  "5A4cMAHAPAKHcMERKHAdKEFULAcDARGAcQADMAcTELISHA QETANAcYERAH BEN YOMOcOLEcILUYcDEHIcZINOR",
  "5AFbMARK MASORA CIRCLEbPOINT SHEVAcHATAF SEGOLdPATAHdQAMATScHIRIQcTSEREcSEGOLcPATAHcQAMATS",
  "5B9cHOLAMdHASER FOR VAVcQUBUTScDAGESH OR MAPIQcMETEGbPUNCTUATION MAQAFbPOINT RAFE",
  "5C0bPUNCTUATION PASEQbPOINT SHIN DOTcSIN DOTbPUNCTUATION SOF PASUQbMARK UPPER DOTcLOWER DOT",
  "5C6bPUNCTUATION NUN HAFUKHAbPOINT QAMATS QATAN",
  "5D0bLETTER ALEFcBETcGIMELcDALETcHEcVAVcZAYINcHETcTETcYODcFINAL KAFcKAFcLAMEDcFINAL MEMcMEM",
  "5DFcFINAL NUNcNUNcSAMEKHcAYINcFINAL PEcPEcFINAL TSADIcTSADIcQOFcRESHcSHINcTAV",
  "5EFbYOD TRIANGLEbLIGATURE YIDDISH DOUBLE VAVdVAV YODdDOUBLE YODbPUNCTUATION GERESHcGERSHAYIM",
  "600aARABIC NUMBER SIGNbSIGN SANAHbFOOTNOTE MARKERbSIGN SAFHAcSAMVATbNUMBER MARK ABOVE",
  "606aARABIC-INDIC CUBE ROOTbFOURTH ROOTaARABIC RAYaARABIC-INDIC PER MILLE SIGN",
  "60AcTEN THOUSAND SIGNaAFGHANI SIGNaARABIC COMMAbDATE SEPARATORbPOETIC VERSE SIGNbSIGN MISRA",
  "610cSALLALLAHOU ALAYHE WASSALLAMcALAYHE ASSALLAMcRAHMATULLAH ALAYHEcRADI ALLAHOU ANHU",
  "614cTAKHALLUSbSMALL HIGH TAHdLIGATURE ALEF WITH LAM WITH YEHdZAINcFATHAcDAMMAcKASRA",
  "61BbSEMICOLONbLETTER MARKbEND OF TEXT MARKbTRIPLE DOT PUNCTUATION MARKbQUESTION MARK",
  "620bLETTER KASHMIRI YEHcHAMZAcALEF WITH MADDA ABOVEeHAMZA ABOVEcWAW WITH HAMZA ABOVE",
  "625cALEF WITH HAMZA BELOWcYEH WITH HAMZA ABOVEcALEFcBEHcTEH MARBUTAdcTHEHcJEEMcHAHcKHAHcDAL",
  "630cTHALcREHcZAINcSEENcSHEENcSADcDADcTAHcZAHcAINcGHAINcKEHEH WITH TWO DOTS ABOVE",
  "63CeTHREE DOTS BELOWcFARSI YEH WITH INVERTED VfTWO DOTS ABOVEfTHREE DOTS ABOVEbTATWEEL",
  "641bLETTER FEHcQAFcKAFcLAMcMEEMcNOONcHEHcWAWcALEF MAKSURAcYEHbFATHATANbDAMMATANbKASRATAN",
  "64EbFATHAbDAMMAbKASRAbSHADDAbSUKUNbMADDAH ABOVEbHAMZA ABOVEcBELOWbSUBSCRIPT ALEF",
  "657bINVERTED DAMMAbMARK NOON GHUNNAbZWARAKAYbVOWEL SIGN SMALL V ABOVEdINVERTED SMALL V ABOVE",
  "65CdDOT BELOWbREVERSED DAMMAbFATHA WITH TWO DOTSbWAVY HAMZA BELOWaARABIC-INDIC DIGIT ZERO",
  "661cONEcTWOcTHREEcFOURcFIVEcSIXcSEVENcEIGHTcNINEaARABIC PERCENT SIGNbDECIMAL SEPARATOR",
  "66CbTHOUSANDS SEPARATORbFIVE POINTED STARbLETTER DOTLESS BEHdQAFcSUPERSCRIPT ALEFcALEF WASLA",
  "672dWITH WAVY HAMZA ABOVEgBELOWcHIGH HAMZAeALEFeWAWcU WITH HAMZA ABOVEcHIGH HAMZA YEHcTTEH",
  "67AcTTEHEHcBEEHcTEH WITH RINGeTHREE DOTS ABOVE DOWNWARDScPEHcTEHEHcBEHEH",
  "681cHAH WITH HAMZA ABOVEeTWO DOTS VERTICAL ABOVEcNYEHcDYEHcHAH WITH THREE DOTS ABOVEcTCHEH",
  "687cTCHEHEHcDDALcDAL WITH RINGeDOT BELOWgAND SMALL TAHcDAHALcDDAHALcDUL",
  "68FcDAL WITH THREE DOTS ABOVE DOWNWARDSeFOUR DOTS ABOVEcRREHcREH WITH SMALL VeRINGeDOT BELOW",
  "695eSMALL V BELOWeDOT BELOW AND DOT ABOVEeTWO DOTS ABOVEcJEHcREH WITH FOUR DOTS ABOVE",
  "69AcSEEN WITH DOT BELOW AND DOT ABOVEeTHREE DOTS BELOWhAND THREE DOTS ABOVE",
  "69DcSAD WITH TWO DOTS BELOWeTHREE DOTS ABOVEcTAH WITH THREE DOTS ABOVE",
  "6A0cAIN WITH THREE DOTS ABOVEcDOTLESS FEHcFEH WITH DOT MOVED BELOWfBELOWcVEH",
  "6A5cFEH WITH THREE DOTS BELOWcPEHEHcQAF WITH DOT ABOVEeTHREE DOTS ABOVEcKEHEHcSWASH KAF",
  "6ABcKAF WITH RINGeDOT ABOVEcNGcKAF WITH THREE DOTS BELOWcGAFdWITH RINGcNGOEH",
  "6B2cGAF WITH TWO DOTS BELOWcGUEHcGAF WITH THREE DOTS ABOVEcLAM WITH SMALL VeDOT ABOVE",
  "6B7eTHREE DOTS ABOVEgBELOWcNOON WITH DOT BELOWdGHUNNAcRNOONcNOON WITH RINGeTHREE DOTS ABOVE",
  "6BEcHEH DOACHASHMEEcTCHEH WITH DOT ABOVEcHEH WITH YEH ABOVEdGOALeWITH HAMZA ABOVE",
  "6C3cTEH MARBUTA GOALcWAW WITH RINGcKIRGHIZ OEcOEcUcYUcKIRGHIZ YUcWAW WITH TWO DOTS ABOVEcVE",
  "6CCcFARSI YEHcYEH WITH TAILeSMALL VcWAW WITH DOT ABOVEcEcYEH WITH THREE DOTS BELOWdBARREE",
  "6D3eWITH HAMZA ABOVEbFULL STOPbLETTER AEbSMALL HIGH LIGATURE SAD WITH LAM WITH ALEF MAKSURA",
  "6D7eQAF WITH LAM WITH ALEF MAKSURAdMEEM INITIAL FORMdLAM ALEFdJEEMdTHREE DOTSdSEEN",
  "6DDbEND OF AYAHbSTART OF RUB EL HIZBbSMALL HIGH ROUNDED ZEROdUPRIGHT RECTANGULAR ZERO",
  "6E1dDOTLESS HEAD OF KHAHdMEEM ISOLATED FORMcLOW SEENcHIGH MADDAcWAWcYEHcHIGH YEHdNOON",
  "6E9bPLACE OF SAJDAHbEMPTY CENTRE LOW STOPdHIGH STOPbROUNDED HIGH STOP WITH FILLED CENTRE",
  "6EDbSMALL LOW MEEMbLETTER DAL WITH INVERTED VcREH WITH INVERTED V",
  "6F0aEXTENDED ARABIC-INDIC DIGIT ZEROdONEdTWOdTHREEdFOURdFIVEdSIXdSEVENdEIGHTdNINE",
  "6FAaARABIC LETTER SHEEN WITH DOT BELOWcDAD WITH DOT BELOWcGHAIN WITH DOT BELOW",
  "6FDbSIGN SINDHI AMPERSANDdPOSTPOSITION MENbLETTER HEH WITH INVERTED V",
  "700aSYRIAC END OF PARAGRAPHbSUPRALINEAR FULL STOPbSUBLINEAR FULL STOPbSUPRALINEAR COLON",
  "704bSUBLINEAR COLONbHORIZONTAL COLONbCOLON SKEWED LEFTdRIGHTbSUPRALINEAR COLON SKEWED LEFT",
  "709bSUBLINEAR COLON SKEWED RIGHTbCONTRACTIONbHARKLEAN OBELUScMETOBELUScASTERISCUS",
  "70FbABBREVIATION MARKbLETTER ALAPHcSUPERSCRIPT ALAPHcBETHcGAMALdGARSHUNIcDALATH",
  "716cDOTLESS DALATH RISHcHEcWAWcZAINcHETHcTETHdGARSHUNIcYUDHdHEcKAPHcLAMADHcMIMcNUNcSEMKATH",
  "724cFINAL SEMKATHcEcPEcREVERSED PEcSADHEcQAPHcRISHcSHINcTAWcPERSIAN BHETHdGHAMALdDHALATH",
  "730bPTHAHA ABOVEcBELOWcDOTTEDbZQAPHA ABOVEcBELOWcDOTTEDbRBASA ABOVEcBELOW",
  "738bDOTTED ZLAMA HORIZONTALdANGULARbHBASA ABOVEcBELOWbHBASA-ESASA DOTTEDbESASA ABOVEcBELOW",
  "73FbRWAHAbFEMININE DOTbQUSHSHAYAbRUKKAKHAbTWO VERTICAL DOTS ABOVEeBELOWbTHREE DOTS ABOVE",
  "746dBELOWbOBLIQUE LINE ABOVEdBELOWbMUSICbBARREKH",
  "74DbLETTER SOGDIAN ZHAINdKHAPHdFEaARABIC LETTER BEH WITH THREE DOTS HORIZONTALLY BELOW",
  "751eDOT BELOW AND THREE DOTS ABOVEeTHREE DOTS POINTING UPWARDS BELOWjAND TWO DOTS ABOVE",
  "754eTWO DOTS BELOW AND DOT ABOVEeINVERTED SMALL V BELOWeSMALL VcHAH WITH TWO DOTS ABOVE",
  "758eTHREE DOTS POINTING UPWARDS BELOWcDAL WITH TWO DOTS VERTICALLY BELOW AND SMALL TAH",
  "75AeINVERTED SMALL V BELOWcREH WITH STROKEcSEEN WITH FOUR DOTS ABOVEcAIN WITH TWO DOTS ABOVE",
  "75EeTHREE DOTS POINTING DOWNWARDS ABOVEeTWO DOTS VERTICALLY ABOVEcFEH WITH TWO DOTS BELOW",
  "761eTHREE DOTS POINTING UPWARDS BELOWcKEHEH WITH DOT ABOVEeTHREE DOTS ABOVE",
  "764gPOINTING UPWARDS BELOWcMEEM WITH DOT ABOVEfBELOWcNOON WITH TWO DOTS BELOWeSMALL TAHfV",
  "76AcLAM WITH BARcREH WITH TWO DOTS VERTICALLY ABOVEeHAMZA ABOVE",
  "76DcSEEN WITH TWO DOTS VERTICALLY ABOVEcHAH WITH SMALL ARABIC LETTER TAH BELOWiAND TWO DOTS",
  "770cSEEN WITH SMALL ARABIC LETTER TAH AND TWO DOTS",
  "771cREH WITH SMALL ARABIC LETTER TAH AND TWO DOTScHAH WITH SMALL ARABIC LETTER TAH ABOVE",
  "773cALEF WITH EXTENDED ARABIC-INDIC DIGIT TWO ABOVEhTHREE ABOVE",
  "775cFARSI YEH WITH EXTENDED ARABIC-INDIC DIGIT TWO ABOVEiTHREE ABOVEiFOUR BELOW",
  "778cWAW WITH EXTENDED ARABIC-INDIC DIGIT TWO ABOVEhTHREE ABOVE",
  "77AcYEH BARREE WITH EXTENDED ARABIC-INDIC DIGIT TWO ABOVEiTHREE ABOVE",
  "77CcHAH WITH EXTENDED ARABIC-INDIC DIGIT FOUR BELOW",
  "77DcSEEN WITH EXTENDED ARABIC-INDIC DIGIT FOUR ABOVEeINVERTED VcKAF WITH TWO DOTS ABOVE",
  "780aTHAANA LETTER HAAcSHAVIYANIcNOONUcRAAcBAAcLHAVIYANIcKAAFUcALIFUcVAAVUcMEEMUcFAAFUcDHAALU",
  "78CcTHAAcLAAMUcGAAFUcGNAVIYANIcSEENUcDAVIYANIcZAVIYANIcTAVIYANIcYAAcPAVIYANIcJAVIYANI",
  "797cCHAVIYANIcTTAAcHHAAcKHAAcTHAALUcZAAcSHEENUcSAADHUcDAADHUcTOcZOcAINUcGHAINUcQAAFUcWAAVU",
  "7A6bABAFILIbAABAAFILIbIBIFILIbEEBEEFILIbUBUFILIbOOBOOFILIbEBEFILIbEYBEYFILIbOBOFILI",
  "7AFbOABOAFILIbSUKUNbLETTER NAA",
  "7C0aNKO DIGIT ZEROcONEcTWOcTHREEcFOURcFIVEcSIXcSEVENcEIGHTcNINEbLETTER AcEEcIcEcUcOOcO",
  "7D1cDAGBASINNAcNcBAcPAcTAcJAcCHAcDAcRAcRRAcSAcGBAcFAcKAcLAcNA WOLOSOcMAcNYAcNAcHAcWAcYA",
  "7E7cNYA WOLOSOcJONA JAdCHAdRAbCOMBINING SHORT HIGH TONEdLOW TONEdRISING TONE",
  "7EEcLONG DESCENDING TONEdHIGH TONEdLOW TONEdRISING TONEcNASALIZATION MARKcDOUBLE DOT ABOVE",
  "7F4bHIGH TONE APOSTROPHEbLOW TONE APOSTROPHEbSYMBOL OO DENNENcGBAKURUNENbCOMMA",
  "7F9bEXCLAMATION MARKbLAJANYALAN",
  "7FDbDANTAYALANbDOROME SIGNbTAMAN SIGNaSAMARITAN LETTER ALAFcBITcGAMANcDALATcIYcBAAcZENcIT",
  "808cTITcYUTcKAAFcLABATcMIMcNUNcSINGAATcINcFIcTSAADIYcQUFcRISHcSHANcTAAFbMARK INcIN-ALAF",
  "818cOCCLUSIONcDAGESHbMODIFIER LETTER EPENTHETIC YUTbMARK EPENTHETIC YUTbVOWEL SIGN LONG EdE",
  "81EdOVERLONG AAdLONG AAdAAdOVERLONG AdLONG AdAbMODIFIER LETTER SHORT AbVOWEL SIGN SHORT A",
  "826dLONG UdUbMODIFIER LETTER IbVOWEL SIGN LONG IdIdOdSUKUNbMARK NEQUDAA",
  "830bPUNCTUATION NEQUDAAcAFSAAQcANGEDcBAUcATMAAUcSHIYYAALAAbABBREVIATION MARK",
  "837bPUNCTUATION MELODIC QITSAcZIQAAcQITSAcZAEFcTURUcARKAANUcSOF MASHFAATcANNAAU",
  "840aMANDAIC LETTER HALQAcABcAGcADcAHcUSHENNAcAZcITcATTcAKSAcAKcALcAMcANcAScINcAPcASZcAQcAR",
  "854cASHcATcDUSHENNAcKADcAINbAFFRICATION MARKbVOCALIZATION MARKbGEMINATION MARK",
  "85EbPUNCTUATION",
  "860aSYRIAC LETTER MALAYALAM NGAdJAdNYAdTTAdNNAdNNNAdBHAdRAdLLAdLLLAdSSA",
  "870aARABIC LETTER ALEF WITH ATTACHED FATHAfTOP RIGHT FATHAeRIGHT MIDDLE STROKE",
  "873eLEFT MIDDLE STROKEeATTACHED KASRAfBOTTOM RIGHT KASRAfROUND DOT ABOVEfRIGHT ROUND DOT",
  "878fLEFT ROUND DOTfROUND DOT BELOWeDOT ABOVEeATTACHED TOP RIGHT FATHA AND DOT ABOVE",
  "87CeRIGHT MIDDLE STROKE AND DOT ABOVEeATTACHED BOTTOM RIGHT KASRA AND DOT ABOVE",
  "87EfTOP RIGHT FATHA AND LEFT RINGeRIGHT MIDDLE STROKE AND LEFT RING",
  "880eATTACHED BOTTOM RIGHT KASRA AND LEFT RINGfRIGHT HAMZAfLEFT HAMZA",
  "883bTATWEEL WITH OVERSTRUCK HAMZAeWAWdTWO DOTS BELOWbLETTER THIN YEHbBASELINE ROUND DOT",
  "888bRAISED ROUND DOTbLETTER NOON WITH INVERTED SMALL VcHAH WITH INVERTED SMALL V BELOW",
  "88BcTAH WITH DOT BELOWeTHREE DOTS BELOWcKEHEH WITH TWO DOTS VERTICALLY BELOWbVERTICAL TAIL",
  "890bPOUND MARK ABOVEbPIASTRE MARK ABOVE",
  "898bSMALL HIGH WORD AL-JUZcLOW WORD ISHMAAMeIMAALAeTASHEELbMADDA WAAJIB",
  "89DbSUPERSCRIPT ALEF MOKHASSASbDOUBLED MADDAbHALF MADDA OVER MADDA",
  "8A0bLETTER BEH WITH SMALL V BELOWeHAMZA ABOVEcJEEM WITH TWO DOTS ABOVE",
  "8A3cTAH WITH TWO DOTS ABOVEcFEH WITH DOT BELOW AND THREE DOTS ABOVEcQAF WITH DOT BELOW",
  "8A6cLAM WITH DOUBLE BARcMEEM WITH THREE DOTS ABOVEcYEH WITH TWO DOTS BELOW AND HAMZA ABOVE",
  "8A9iDOT ABOVEcREH WITH LOOPcWAW WITH DOT WITHINcROHINGYA YEHcLOW ALEF",
  "8AEcDAL WITH THREE DOTS BELOWcSAD WITH THREE DOTS BELOWcGAF WITH INVERTED STROKE",
  "8B1cSTRAIGHT WAWcZAIN WITH INVERTED V ABOVEcAIN WITH THREE DOTS BELOWcKAF WITH DOT BELOW",
  "8B5cQAF WITH DOT BELOW AND NO DOTS ABOVEcBEH WITH SMALL MEEM ABOVEcPEH WITH SMALL MEEM ABOVE",
  "8B8cTEH WITH SMALL TEH ABOVEcREH WITH SMALL NOON ABOVE",
  "8BAcYEH WITH TWO DOTS BELOW AND SMALL NOON ABOVEcAFRICAN FEHdQAFdNOONcPEH WITH SMALL V",
  "8BFcTEH WITH SMALL VcTTEH WITH SMALL VcTCHEH WITH SMALL VcKEHEH WITH SMALL V",
  "8C3cGHAIN WITH THREE DOTS ABOVEcAFRICAN QAF WITH THREE DOTS ABOVEcJEEM WITH THREE DOTS ABOVE",
  "8C6gBELOWcLAM WITH SMALL ARABIC LETTER TAH ABOVEcGRAFbSMALL FARSI YEHcHIGH FARSI YEH",
  "8CBdYEH BARREE WITH TWO DOTS BELOWdWORD SAHdZAHbLARGE ROUND DOT ABOVEeBELOWbSUKUN BELOW",
  "8D1bLARGE CIRCLE BELOWcROUND DOT INSIDE CIRCLE BELOWbSMALL LOW WAWcHIGH WORD AR-RUBdSADdAIN",
  "8D7dQAFdNOON WITH KASRAcLOW NOON WITH KASRAcHIGH WORD ATH-THALATHAeAS-SAJDAeAN-NISFeSAKTA",
  "8DEeQIFeWAQFAdFOOTNOTE MARKERdSIGN SAFHAbDISPUTED END OF AYAHbTURNED DAMMA BELOWbCURLY FATHA",
  "8E5cDAMMAcKASRAcFATHATANcDAMMATANcKASRATANbTONE ONE DOT ABOVEcTWO DOTS ABOVEcLOOP ABOVE",
  "8EDcONE DOT BELOWcTWO DOTS BELOWcLOOP BELOWbOPEN FATHATANcDAMMATANcKASRATANbSMALL HIGH WAW",
  "8F4bFATHA WITH RINGdDOT ABOVEbKASRA WITH DOT BELOWbLEFT ARROWHEAD ABOVE",
  "8F8bRIGHT ARROWHEAD ABOVEbLEFT ARROWHEAD BELOWbRIGHT ARROWHEAD BELOW",
  "8FBbDOUBLE RIGHT ARROWHEAD ABOVEfWITH DOTbRIGHT ARROWHEAD ABOVE WITH DOTbDAMMA WITH DOT",
  "8FFbMARK SIDEWAYS NOON GHUNNAaDEVANAGARI SIGN INVERTED CANDRABINDUcCANDRABINDUcANUSVARA",
  "903cVISARGAbLETTER SHORT AcAcAAcIcIIcUcUUcVOCALIC RdLcCANDRA EcSHORT EcEcAIcCANDRA OcSHORT O",
  "913cOcAUcKAcKHAcGAcGHAcNGAcCAcCHAcJAcJHAcNYAcTTAcTTHAcDDAcDDHAcNNAcTAcTHAcDAcDHAcNAcNNNAcPA",
  "92BcPHAcBAcBHAcMAcYAcRAcRRAcLAcLLAcLLLAcVAcSHAcSSAcSAcHAbVOWEL SIGN OEdOOEbSIGN NUKTA",
  "93DcAVAGRAHAbVOWEL SIGN AAdIdIIdUdUUdVOCALIC ReRRdCANDRA EdSHORT EdEdAIdCANDRA OdSHORT OdO",
  "94CdAUbSIGN VIRAMAbVOWEL SIGN PRISHTHAMATRA EdAWbOMbSTRESS SIGN UDATTAdANUDATTAbGRAVE ACCENT",
  "954bACUTE ACCENTbVOWEL SIGN CANDRA LONG EdUEdUUEbLETTER QAcKHHAcGHHAcZAcDDDHAcRHAcFAcYYA",
  "960cVOCALIC RRdLLbVOWEL SIGN VOCALIC LeLLbDANDAbDOUBLE DANDAbDIGIT ZEROcONEcTWOcTHREEcFOUR",
  "96BcFIVEcSIXcSEVENcEIGHTcNINEbABBREVIATION SIGNbSIGN HIGH SPACING DOTbLETTER CANDRA AcOEcOOE",
  "975cAWcUEcUUEcMARWARI DDAcZHAcHEAVY YAcGGAcJJAcGLOTTAL STOPcDDDAcBBAaBENGALI ANJI",
  "981bSIGN CANDRABINDUcANUSVARAcVISARGA",
  "985bLETTER AcAAcIcIIcUcUUcVOCALIC RdL",
  "98FcEcAI",
  "993cOcAUcKAcKHAcGAcGHAcNGAcCAcCHAcJAcJHAcNYAcTTAcTTHAcDDAcDDHAcNNAcTAcTHAcDAcDHAcNA",
  "9AAcPAcPHAcBAcBHAcMAcYAcRA",
  "9B2cLA",
  "9B6cSHAcSSAcSAcHA",
  "9BCbSIGN NUKTAcAVAGRAHAbVOWEL SIGN AAdIdIIdUdUUdVOCALIC ReRR",
  "9C7dEdAI",
  "9CBdOdAUbSIGN VIRAMAbLETTER KHANDA TA",
  "9D7bAU LENGTH MARK",
  "9DCbLETTER RRAcRHA",
  "9DFcYYAcVOCALIC RRdLLbVOWEL SIGN VOCALIC LeLL",
  "9E6bDIGIT ZEROcONEcTWOcTHREEcFOURcFIVEcSIXcSEVENcEIGHTcNINEbLETTER RA WITH MIDDLE DIAGONAL",
  "9F1eLOWER DIAGONALbRUPEE MARKcSIGNbCURRENCY NUMERATOR ONEdTWOdTHREEdFOUR",
  "9F8dONE LESS THAN THE DENOMINATORcDENOMINATOR SIXTEENbISSHARbGANDA MARK",
  "9FCbLETTER VEDIC ANUSVARAbABBREVIATION SIGNbSANDHI MARK",
  "A01aGURMUKHI SIGN ADAK BINDIcBINDIcVISARGA",
  "A05bLETTER AcAAcIcIIcUcUU",
  "A0FcEEcAI",
  "A13cOOcAUcKAcKHAcGAcGHAcNGAcCAcCHAcJAcJHAcNYAcTTAcTTHAcDDAcDDHAcNNAcTAcTHAcDAcDHAcNA",
  "A2AcPAcPHAcBAcBHAcMAcYAcRA",
  "A32cLAcLLA",
  "A35cVAcSHA",
  "A38cSAcHA",
  "A3CbSIGN NUKTA",
  "A3EbVOWEL SIGN AAdIdIIdUdUU",
  "A47dEEdAI",
  "A4BdOOdAUbSIGN VIRAMA",
  "A51cUDAAT",
  "A59bLETTER KHHAcGHHAcZAcRRA",
  "A5EcFA",
  "A66bDIGIT ZEROcONEcTWOcTHREEcFOURcFIVEcSIXcSEVENcEIGHTcNINEbTIPPIbADDAKbIRIbURAbEK ONKAR",
  "A75bSIGN YAKASHbABBREVIATION SIGN",
  "A81aGUJARATI SIGN CANDRABINDUcANUSVARAcVISARGA",
  "A85bLETTER AcAAcIcIIcUcUUcVOCALIC RdLbVOWEL CANDRA E",
  "A8FbLETTER EcAIbVOWEL CANDRA O",
  "A93bLETTER OcAUcKAcKHAcGAcGHAcNGAcCAcCHAcJAcJHAcNYAcTTAcTTHAcDDAcDDHAcNNAcTAcTHAcDAcDHAcNA",
  "AAAcPAcPHAcBAcBHAcMAcYAcRA",
  "AB2cLAcLLA",
  "AB5cVAcSHAcSSAcSAcHA",
  "ABCbSIGN NUKTAcAVAGRAHAbVOWEL SIGN AAdIdIIdUdUUdVOCALIC ReRRdCANDRA E",
  "AC7dEdAIdCANDRA O",
  "ACBdOdAUbSIGN VIRAMA",
  "AD0bOM",
  "AE0bLETTER VOCALIC RRdLLbVOWEL SIGN VOCALIC LeLL",
  "AE6bDIGIT ZEROcONEcTWOcTHREEcFOURcFIVEcSIXcSEVENcEIGHTcNINEbABBREVIATION SIGNbRUPEE SIGN",
  "AF9bLETTER ZHAbSIGN SUKUNcSHADDAcMADDAHcTHREE-DOT NUKTA ABOVEcCIRCLE NUKTA ABOVE",
  "AFFcTWO-CIRCLE NUKTA ABOVE",
  "B01aORIYA SIGN CANDRABINDUcANUSVARAcVISARGA",
  "B05bLETTER AcAAcIcIIcUcUUcVOCALIC RdL",
  "B0FcEcAI",
  "B13cOcAUcKAcKHAcGAcGHAcNGAcCAcCHAcJAcJHAcNYAcTTAcTTHAcDDAcDDHAcNNAcTAcTHAcDAcDHAcNA",
  "B2AcPAcPHAcBAcBHAcMAcYAcRA",
  "B32cLAcLLA",
  "B35cVAcSHAcSSAcSAcHA",
  "B3CbSIGN NUKTAcAVAGRAHAbVOWEL SIGN AAdIdIIdUdUUdVOCALIC ReRR",
  "B47dEdAI",
  "B4BdOdAUbSIGN VIRAMA",
  "B55cOVERLINEbAI LENGTH MARKbAU LENGTH MARK",
  "B5CbLETTER RRAcRHA",
  "B5FcYYAcVOCALIC RRdLLbVOWEL SIGN VOCALIC LeLL",
  "B66bDIGIT ZEROcONEcTWOcTHREEcFOURcFIVEcSIXcSEVENcEIGHTcNINEbISSHARbLETTER WA",
  "B72bFRACTION ONE QUARTERdHALFcTHREE QUARTERScONE SIXTEENTHdEIGHTHcTHREE SIXTEENTHS",
  "B82aTAMIL SIGN ANUSVARAcVISARGA",
  "B85bLETTER AcAAcIcIIcUcUU",
  "B8EcEcEEcAI",
  "B92cOcOOcAUcKA",
  "B99cNGAcCA",
  "B9CcJA",
  "B9EcNYAcTTA",
  "BA3cNNAcTA",
  "BA8cNAcNNNAcPA",
  "BAEcMAcYAcRAcRRAcLAcLLAcLLLAcVAcSHAcSSAcSAcHA",
  "BBEbVOWEL SIGN AAdIdIIdUdUU",
  "BC6dEdEEdAI",
  "BCAdOdOOdAUbSIGN VIRAMA",
  "BD0bOM",
  "BD7bAU LENGTH MARK",
  "BE6bDIGIT ZEROcONEcTWOcTHREEcFOURcFIVEcSIXcSEVENcEIGHTcNINEbNUMBER TENcONE HUNDREDdTHOUSAND",
  "BF3bDAY SIGNbMONTH SIGNbYEAR SIGNbDEBIT SIGNbCREDIT SIGNbAS ABOVE SIGNbRUPEE SIGN",
  "BFAbNUMBER SIGN",
  "C00aTELUGU SIGN COMBINING CANDRABINDU ABOVEcCANDRABINDUcANUSVARAcVISARGA",
  "C04cCOMBINING ANUSVARA ABOVEbLETTER AcAAcIcIIcUcUUcVOCALIC RdL",
  "C0EcEcEEcAI",
  "C12cOcOOcAUcKAcKHAcGAcGHAcNGAcCAcCHAcJAcJHAcNYAcTTAcTTHAcDDAcDDHAcNNAcTAcTHAcDAcDHAcNA",
  "C2AcPAcPHAcBAcBHAcMAcYAcRAcRRAcLAcLLAcLLLAcVAcSHAcSSAcSAcHA",
  "C3CbSIGN NUKTAcAVAGRAHAbVOWEL SIGN AAdIdIIdUdUUdVOCALIC ReRR",
  "C46dEdEEdAI",
  "C4AdOdOOdAUbSIGN VIRAMA",
  "C55bLENGTH MARKbAI LENGTH MARK",
  "C58bLETTER TSAcDZAcRRRA",
  "C5DcNAKAARA POLLU",
  "C60cVOCALIC RRdLLbVOWEL SIGN VOCALIC LeLL",
  "C66bDIGIT ZEROcONEcTWOcTHREEcFOURcFIVEcSIXcSEVENcEIGHTcNINE",
  "C77bSIGN SIDDHAMbFRACTION DIGIT ZERO FOR ODD POWERS OF FOURdONE FOR ODD POWERS OF FOUR",
  "C7AdTWO FOR ODD POWERS OF FOURdTHREE FOR ODD POWERS OF FOURdONE FOR EVEN POWERS OF FOUR",
  "C7DdTWO FOR EVEN POWERS OF FOURdTHREE FOR EVEN POWERS OF FOURbSIGN TUUMU",
  "C80aKANNADA SIGN SPACING CANDRABINDUcCANDRABINDUcANUSVARAcVISARGAcSIDDHAMbLETTER AcAAcIcIIcU",
  "C8AcUUcVOCALIC RdL",
  "C8EcEcEEcAI",
  "C92cOcOOcAUcKAcKHAcGAcGHAcNGAcCAcCHAcJAcJHAcNYAcTTAcTTHAcDDAcDDHAcNNAcTAcTHAcDAcDHAcNA",
  "CAAcPAcPHAcBAcBHAcMAcYAcRAcRRAcLAcLLA",
  "CB5cVAcSHAcSSAcSAcHA",
  "CBCbSIGN NUKTAcAVAGRAHAbVOWEL SIGN AAdIdIIdUdUUdVOCALIC ReRR",
  "CC6dEdEEdAI",
  "CCAdOdOOdAUbSIGN VIRAMA",
  "CD5bLENGTH MARKbAI LENGTH MARK",
  "CDDbLETTER NAKAARA POLLUcFA",
  "CE0cVOCALIC RRdLLbVOWEL SIGN VOCALIC LeLL",
  "CE6bDIGIT ZEROcONEcTWOcTHREEcFOURcFIVEcSIXcSEVENcEIGHTcNINE",
  "CF1bSIGN JIHVAMULIYAcUPADHMANIYA",
  "D00aMALAYALAM SIGN COMBINING ANUSVARA ABOVEcCANDRABINDUcANUSVARAcVISARGA",
  "D04bLETTER VEDIC ANUSVARAcAcAAcIcIIcUcUUcVOCALIC RdL",
  "D0EcEcEEcAI",
  "D12cOcOOcAUcKAcKHAcGAcGHAcNGAcCAcCHAcJAcJHAcNYAcTTAcTTHAcDDAcDDHAcNNAcTAcTHAcDAcDHAcNAcNNNA",
  "D2AcPAcPHAcBAcBHAcMAcYAcRAcRRAcLAcLLAcLLLAcVAcSHAcSSAcSAcHAcTTTAbSIGN VERTICAL BAR VIRAMA",
  "D3CcCIRCULAR VIRAMAcAVAGRAHAbVOWEL SIGN AAdIdIIdUdUUdVOCALIC ReRR",
  "D46dEdEEdAI",
  "D4AdOdOOdAUbSIGN VIRAMAbLETTER DOT REPHbSIGN PARA",
  "D54bLETTER CHILLU MdYdLLLbAU LENGTH MARKbFRACTION ONE ONE-HUNDRED-AND-SIXTIETHdFORTIETH",
  "D5AcTHREE EIGHTIETHScONE TWENTIETHdTENTHcTHREE TWENTIETHScONE FIFTHbLETTER ARCHAIC II",
  "D60cVOCALIC RRdLLbVOWEL SIGN VOCALIC LeLL",
  "D66bDIGIT ZEROcONEcTWOcTHREEcFOURcFIVEcSIXcSEVENcEIGHTcNINEbNUMBER TENcONE HUNDREDdTHOUSAND",
  "D73bFRACTION ONE QUARTERdHALFcTHREE QUARTERScONE SIXTEENTHdEIGHTHcTHREE SIXTEENTHSbDATE MARK",
  "D7AbLETTER CHILLU NNdNdRRdLdLLdK",
  "D81aSINHALA SIGN CANDRABINDUcANUSVARAYAcVISARGAYA",
  "D85bLETTER AYANNAcAAYANNAcAEYANNAcAEEYANNAcIYANNAcIIYANNAcUYANNAcUUYANNAcIRUYANNAcIRUUYANNA",
  "D8FcILUYANNAcILUUYANNAcEYANNAcEEYANNAcAIYANNAcOYANNAcOOYANNAcAUYANNA",
  "D9AcALPAPRAANA KAYANNAcMAHAAPRAANA KAYANNAcALPAPRAANA GAYANNAcMAHAAPRAANA GAYANNA",
  "D9EcKANTAJA NAASIKYAYAcSANYAKA GAYANNAcALPAPRAANA CAYANNAcMAHAAPRAANA CAYANNA",
  "DA2cALPAPRAANA JAYANNAcMAHAAPRAANA JAYANNAcTAALUJA NAASIKYAYAdSANYOOGA NAAKSIKYAYA",
  "DA6cSANYAKA JAYANNAcALPAPRAANA TTAYANNAcMAHAAPRAANA TTAYANNAcALPAPRAANA DDAYANNA",
  "DAAcMAHAAPRAANA DDAYANNAcMUURDHAJA NAYANNAcSANYAKA DDAYANNAcALPAPRAANA TAYANNA",
  "DAEcMAHAAPRAANA TAYANNAcALPAPRAANA DAYANNAcMAHAAPRAANA DAYANNAcDANTAJA NAYANNA",
  "DB3cSANYAKA DAYANNAcALPAPRAANA PAYANNAcMAHAAPRAANA PAYANNAcALPAPRAANA BAYANNA",
  "DB7cMAHAAPRAANA BAYANNAcMAYANNAcAMBA BAYANNAcYAYANNAcRAYANNA",
  "DBDcDANTAJA LAYANNA",
  "DC0cVAYANNAcTAALUJA SAYANNAcMUURDHAJA SAYANNAcDANTAJA SAYANNAcHAYANNAcMUURDHAJA LAYANNA",
  "DC6cFAYANNA",
  "DCAbSIGN AL-LAKUNA",
  "DCFbVOWEL SIGN AELA-PILLAdKETTI AEDA-PILLAdDIGA AEDA-PILLAdKETTI IS-PILLAdDIGA IS-PILLA",
  "DD4dKETTI PAA-PILLA",
  "DD6dDIGA PAA-PILLA",
  "DD8dGAETTA-PILLAdKOMBUVAdDIGA KOMBUVAdKOMBU DEKAdKOMBUVA HAA AELA-PILLAfDIGA AELA-PILLA",
  "DDEfGAYANUKITTAdGAYANUKITTA",
  "DE6bLITH DIGIT ZEROdONEdTWOdTHREEdFOURdFIVEdSIXdSEVENdEIGHTdNINE",
  "DF2bVOWEL SIGN DIGA GAETTA-PILLAeGAYANUKITTAbPUNCTUATION KUNDDALIYA",
  "E01aTHAI CHARACTER KO KAIcKHO KHAIdKHUATdKHWAIdKHONdRAKHANGcNGO NGUcCHO CHANdCHINGdCHANG",
  "E0BcSO SOcCHO CHOEcYO YINGcDO CHADAcTO PATAKcTHO THANdNANGMONTHOdPHUTHAOcNO NENcDO DEK",
  "E15cTO TAOcTHO THUNGdTHAHANdTHONGcNO NUcBO BAIMAIcPO PLAcPHO PHUNGcFO FAcPHO PHANcFO FAN",
  "E20cPHO SAMPHAOcMO MAcYO YAKcRO RUAcRUcLO LINGcLUcWO WAENcSO SALAdRUSIdSUAcHO HIPcLO CHULA",
  "E2DcO ANGcHO NOKHUKcPAIYANNOIcSARA AcMAI HAN-AKATcSARA AAdAMdIdIIdUEdUEEdUdUUcPHINTHU",
  "E3FbCURRENCY SYMBOL BAHTbCHARACTER SARA EdAEdOdAI MAIMUANeMAIMALAIcLAKKHANGYAOcMAIYAMOK",
  "E47cMAITAIKHUcMAI EKdTHOdTRIdCHATTAWAcTHANTHAKHATcNIKHAHITcYAMAKKANcFONGMANbDIGIT ZEROcONE",
  "E52cTWOcTHREEcFOURcFIVEcSIXcSEVENcEIGHTcNINEbCHARACTER ANGKHANKHUcKHOMUT",
  "E81aLAO LETTER KOcKHO SUNG",
  "E84dTAM",
  "E86cPALI GHAcNGOcCOcPALI CHAcSO TAM",
  "E8CcPALI JHAcNYOcPALI NYAdTTAdTTHAdDDAdDDHAdNNAcDOcTOcTHO SUNGdTAMcPALI DHAcNOcBOcPO",
  "E9CcPHO SUNGcFO TAMcPHO TAMcFO SUNGcPALI BHAcMOcYOcLO LING",
  "EA5dLOOT",
  "EA7cWOcSANSKRIT SHAdSSAcSO SUNGcHO SUNGcPALI LLAcOcHO TAMbELLIPSISbVOWEL SIGN AdMAI KANdAA",
  "EB3dAMdIdIIdYdYYdUdUUbSIGN PALI VIRAMAbVOWEL SIGN MAI KONbSEMIVOWEL SIGN LOdNYO",
  "EC0bVOWEL SIGN EdEIdOdAYdAI",
  "EC6bKO LA",
  "EC8bTONE MAI EKdTHOdTIdCATAWAbCANCELLATION MARKbNIGGAHITA",
  "ED0bDIGIT ZEROcONEcTWOcTHREEcFOURcFIVEcSIXcSEVENcEIGHTcNINE",
  "EDCbHO NOcMObLETTER KHMU GOdNYO",
  "F00aTIBETAN SYLLABLE OMbMARK GTER YIG MGO TRUNCATED Af-UM RNAM BCAD MAgGTER TSHEG MA",
  "F04cINITIAL YIG MGO MDUN MAcCLOSING YIG MGO SGAB MAcCARET YIG MGO PHUR SHAD MA",
  "F07cYIG MGO TSHEG SHAD MAcSBRUL SHADcBSKUR YIG MGOcBKA- SHOG YIG MGOcINTERSYLLABIC TSHEG",
  "F0CcDELIMITER TSHEG BSTARcSHADcNYIS SHADcTSHEG SHADcNYIS TSHEG SHADcRIN CHEN SPUNGS SHAD",
  "F12cRGYA GRAM SHADcCARET -DZUD RTAGS ME LONG CANcGTER TSHEGbLOGOTYPE SIGN CHAD RTAGS",
  "F16dLHAG RTAGSbASTROLOGICAL SIGN SGRA GCAN -CHAR RTAGSd-KHYUD PAdSDONG TSHUGS",
  "F1AbSIGN RDEL DKAR GCIGeGNYISeGSUMdNAG GCIGeGNYISdDKAR RDEL NAGbDIGIT ZEROcONEcTWOcTHREE",
  "F24cFOURcFIVEcSIXcSEVENcEIGHTcNINEcHALF ONEdTWOdTHREEdFOURdFIVEdSIXdSEVENdEIGHTdNINEdZERO",
  "F34bMARK BSDUS RTAGScNGAS BZUNG NYI ZLAcCARET -DZUD RTAGS BZHI MIG CANcNGAS BZUNG SGOR RTAGS",
  "F38cCHE MGOcTSA -PHRUcGUG RTAGS GYONeGYAScANG KHANG GYONeGYASbSIGN YAR TSHEScMAR TSHES",
  "F40bLETTER KAcKHAcGAcGHAcNGAcCAcCHAcJA",
  "F49cNYAcTTAcTTHAcDDAcDDHAcNNAcTAcTHAcDAcDHAcNAcPAcPHAcBAcBHAcMAcTSAcTSHAcDZAcDZHAcWAcZHAcZA",
  "F60c-AcYAcRAcLAcSHAcSSAcSAcHAcAcKSSAcFIXED-FORM RAcKKAcRRA",
  "F71bVOWEL SIGN AAdIdIIdUdUUdVOCALIC ReRReLeLLdEdEEdOdOObSIGN RJES SU NGA ROcRNAM BCAD",
  "F80bVOWEL SIGN REVERSED IeIIbSIGN NYI ZLA NAA DAcSNA LDANbMARK HALANTAcPALUTAbSIGN LCI RTAGS",
  "F87cYANG RTAGScLCE TSA CANcMCHU CANcGRU CAN RGYINGSdMED RGYINGScINVERTED MCHU CAN",
  "F8DbSUBJOINED SIGN LCE TSA CANdMCHU CANdINVERTED MCHU CANcLETTER KAdKHAdGAdGHAdNGAdCAdCHAdJA",
  "F99dNYAdTTAdTTHAdDDAdDDHAdNNAdTAdTHAdDAdDHAdNAdPAdPHAdBAdBHAdMAdTSAdTSHAdDZAdDZHAdWAdZHAdZA",
  "FB0d-AdYAdRAdLAdSHAdSSAdSAdHAdAdKSSAdFIXED-FORM WAeYAeRA",
  "FBEbKU RU KHAeBZHI MIG CANbCANTILLATION SIGN HEAVY BEATdLIGHT BEATdCANG TE-UdSBUB -CHAL",
  "FC4bSYMBOL DRIL BUcRDO RJEcPADMA GDANcRDO RJE RGYA GRAMcPHUR PAcNOR BUeNYIS -KHYIL",
  "FCBeGSUM -KHYILeBZHI -KHYIL",
  "FCEbSIGN RDEL NAG RDEL DKAReGSUMbMARK BSKA- SHOG GI MGO RGYANcMNYAM YIG GI MGO RGYAN",
  "FD2cNYIS TSHEGcINITIAL BRDA RNYING YIG MGO MDUN MAcCLOSING BRDA RNYING YIG MGO SGAB MA",
  "FD5aRIGHT-FACING SVASTI SIGNaLEFT-FACING SVASTI SIGNaRIGHT-FACING SVASTI SIGN WITH DOTS",
  "FD8aLEFT-FACING SVASTI SIGN WITH DOTSaTIBETAN MARK LEADING MCHAN RTAGScTRAILING MCHAN RTAGS",
  "1000aMYANMAR LETTER KAcKHAcGAcGHAcNGAcCAcCHAcJAcJHAcNYAcNNYAcTTAcTTHAcDDAcDDHAcNNAcTAcTHAcDA",
  "1013cDHAcNAcPAcPHAcBAcBHAcMAcYAcRAcLAcWAcSAcHAcLLAcAcSHAN AcIcIIcUcUUcEcMON EcOcAU",
  "102BbVOWEL SIGN TALL AAdAAdIdIIdUdUUdEdAIdMON IIeOdE ABOVEbSIGN ANUSVARAcDOT BELOWcVISARGA",
  "1039cVIRAMAcASATbCONSONANT SIGN MEDIAL YAeRAeWAeHAbLETTER GREAT SAbDIGIT ZEROcONEcTWOcTHREE",
  "1044cFOURcFIVEcSIXcSEVENcEIGHTcNINEbSIGN LITTLE SECTIONcSECTIONbSYMBOL LOCATIVEcCOMPLETED",
  "104EcAFOREMENTIONEDcGENITIVEbLETTER SHAcSSAcVOCALIC RdRRdLdLLbVOWEL SIGN VOCALIC ReRReLeLL",
  "105AbLETTER MON NGAdJHAdBBAdBBEbCONSONANT SIGN MON MEDIAL NAfMAfLAbLETTER SGAW KAREN SHA",
  "1062bVOWEL SIGN SGAW KAREN EUbTONE MARK SGAW KAREN HATHIfKE PHObLETTER WESTERN PWO KAREN THA",
  "1066fPWAbVOWEL SIGN WESTERN PWO KAREN EUgUEbSIGN WESTERN PWO KAREN TONE-1fTONE-2fTONE-3",
  "106CfTONE-4fTONE-5bLETTER EASTERN PWO KAREN NNAfYWAfGHWAbVOWEL SIGN GEBA KAREN IdKAYAH OEeU",
  "1074eEEbLETTER SHAN KAdKHAdGAdCAdZAdNYAdDAdNAdPHAdFAdBAdTHAdHAbCONSONANT SIGN SHAN MEDIAL WA",
  "1083bVOWEL SIGN SHAN AAeEfABOVEeFINAL YbSIGN SHAN TONE-2dTONE-3dTONE-5dTONE-6dCOUNCIL TONE-2",
  "108CeTONE-3eEMPHATIC TONEbLETTER RUMAI PALAUNG FAbSIGN RUMAI PALAUNG TONE-5bSHAN DIGIT ZERO",
  "1091dONEdTWOdTHREEdFOURdFIVEdSIXdSEVENdEIGHTdNINEbSIGN KHAMTI TONE-1dTONE-3",
  "109CbVOWEL SIGN AITON AeAIbSYMBOL SHAN ONEdEXCLAMATIONaGEORGIAN CAPITAL LETTER ANdBANdGAN",
  "10A3dDONdENdVINdZENdTANdINdKANdLASdMANdNARdONdPARdZHARdRAEdSANdTARdUNdPHARdKHARdGHANdQAR",
  "10B8dSHINdCHINdCANdJILdCILdCHARdXANdJHANdHAEdHEdHIEdWEdHARdHOE",
  "10C7dYN",
  "10CDdAEN",
  "10D0bLETTER ANcBANcGANcDONcENcVINcZENcTANcINcKANcLAScMANcNARcONcPARcZHARcRAEcSANcTARcUNcPHAR",
  "10E5cKHARcGHANcQARcSHINcCHINcCANcJILcCILcCHARcXANcJHANcHAEcHEcHIEcWEcHARcHOEcFIcYNcELIFI",
  "10F9cTURNED GANcAINbPARAGRAPH SEPARATORaMODIFIER LETTER GEORGIAN NARaGEORGIAN LETTER AEN",
  "10FEcHARD SIGNcLABIAL SIGNaHANGUL CHOSEONG KIYEOKcSSANGKIYEOKcNIEUNcTIKEUTcSSANGTIKEUTcRIEUL",
  "1106cMIEUMcPIEUPcSSANGPIEUPcSIOScSSANGSIOScIEUNGcCIEUCcSSANGCIEUCcCHIEUCHcKHIEUKHcTHIEUTH",
  "1111cPHIEUPHcHIEUHcNIEUN-KIYEOKcSSANGNIEUNcNIEUN-TIKEUTcNIEUN-PIEUPcTIKEUT-KIYEOK",
  "1118cRIEUL-NIEUNcSSANGRIEULcRIEUL-HIEUHcKAPYEOUNRIEULcMIEUM-PIEUPcKAPYEOUNMIEUMcPIEUP-KIYEOK",
  "111FcPIEUP-NIEUNcPIEUP-TIKEUTcPIEUP-SIOScPIEUP-SIOS-KIYEOKcPIEUP-SIOS-TIKEUT",
  "1124cPIEUP-SIOS-PIEUPcPIEUP-SSANGSIOScPIEUP-SIOS-CIEUCcPIEUP-CIEUCcPIEUP-CHIEUCH",
  "1129cPIEUP-THIEUTHcPIEUP-PHIEUPHcKAPYEOUNPIEUPcKAPYEOUNSSANGPIEUPcSIOS-KIYEOKcSIOS-NIEUN",
  "112FcSIOS-TIKEUTcSIOS-RIEULcSIOS-MIEUMcSIOS-PIEUPcSIOS-PIEUP-KIYEOKcSIOS-SSANGSIOS",
  "1135cSIOS-IEUNGcSIOS-CIEUCcSIOS-CHIEUCHcSIOS-KHIEUKHcSIOS-THIEUTHcSIOS-PHIEUPHcSIOS-HIEUH",
  "113CcCHITUEUMSIOScCHITUEUMSSANGSIOScCEONGCHIEUMSIOScCEONGCHIEUMSSANGSIOScPANSIOS",
  "1141cIEUNG-KIYEOKcIEUNG-TIKEUTcIEUNG-MIEUMcIEUNG-PIEUPcIEUNG-SIOScIEUNG-PANSIOScSSANGIEUNG",
  "1148cIEUNG-CIEUCcIEUNG-CHIEUCHcIEUNG-THIEUTHcIEUNG-PHIEUPHcYESIEUNGcCIEUC-IEUNG",
  "114EcCHITUEUMCIEUCcCHITUEUMSSANGCIEUCcCEONGCHIEUMCIEUCcCEONGCHIEUMSSANGCIEUCcCHIEUCH-KHIEUKH",
  "1153cCHIEUCH-HIEUHcCHITUEUMCHIEUCHcCEONGCHIEUMCHIEUCHcPHIEUPH-PIEUPcKAPYEOUNPHIEUPH",
  "1158cSSANGHIEUHcYEORINHIEUHcKIYEOK-TIKEUTcNIEUN-SIOScNIEUN-CIEUCcNIEUN-HIEUHcTIKEUT-RIEUL",
  "115FcFILLERbJUNGSEONG FILLERcAcAEcYAcYAEcEOcEcYEOcYEcOcWAcWAEcOEcYOcUcWEOcWEcWIcYUcEUcYIcI",
  "1176cA-OcA-UcYA-OcYA-YOcEO-OcEO-UcEO-EUcYEO-OcYEO-UcO-EOcO-EcO-YEcO-OcO-UcYO-YAcYO-YAE",
  "1186cYO-YEOcYO-OcYO-IcU-AcU-AEcU-EO-EUcU-YEcU-UcYU-AcYU-EOcYU-EcYU-YEOcYU-YEcYU-UcYU-IcEU-U",
  "1196cEU-EUcYI-UcI-AcI-YAcI-OcI-UcI-EUcI-ARAEAcARAEAcARAEA-EOcARAEA-UcARAEA-IcSSANGARAEAcA-EU",
  "11A4cYA-UcYEO-YAcO-YAcO-YAEbJONGSEONG KIYEOKcSSANGKIYEOKcKIYEOK-SIOScNIEUNcNIEUN-CIEUC",
  "11ADcNIEUN-HIEUHcTIKEUTcRIEULcRIEUL-KIYEOKcRIEUL-MIEUMcRIEUL-PIEUPcRIEUL-SIOScRIEUL-THIEUTH",
  "11B5cRIEUL-PHIEUPHcRIEUL-HIEUHcMIEUMcPIEUPcPIEUP-SIOScSIOScSSANGSIOScIEUNGcCIEUCcCHIEUCH",
  "11BFcKHIEUKHcTHIEUTHcPHIEUPHcHIEUHcKIYEOK-RIEULcKIYEOK-SIOS-KIYEOKcNIEUN-KIYEOKcNIEUN-TIKEUT",
  "11C7cNIEUN-SIOScNIEUN-PANSIOScNIEUN-THIEUTHcTIKEUT-KIYEOKcTIKEUT-RIEULcRIEUL-KIYEOK-SIOS",
  "11CDcRIEUL-NIEUNcRIEUL-TIKEUTcRIEUL-TIKEUT-HIEUHcSSANGRIEULcRIEUL-MIEUM-KIYEOK",
  "11D2cRIEUL-MIEUM-SIOScRIEUL-PIEUP-SIOScRIEUL-PIEUP-HIEUHcRIEUL-KAPYEOUNPIEUPcRIEUL-SSANGSIOS",
  "11D7cRIEUL-PANSIOScRIEUL-KHIEUKHcRIEUL-YEORINHIEUHcMIEUM-KIYEOKcMIEUM-RIEULcMIEUM-PIEUP",
  "11DDcMIEUM-SIOScMIEUM-SSANGSIOScMIEUM-PANSIOScMIEUM-CHIEUCHcMIEUM-HIEUHcKAPYEOUNMIEUM",
  "11E3cPIEUP-RIEULcPIEUP-PHIEUPHcPIEUP-HIEUHcKAPYEOUNPIEUPcSIOS-KIYEOKcSIOS-TIKEUTcSIOS-RIEUL",
  "11EAcSIOS-PIEUPcPANSIOScIEUNG-KIYEOKcIEUNG-SSANGKIYEOKcSSANGIEUNGcIEUNG-KHIEUKHcYESIEUNG",
  "11F1cYESIEUNG-SIOScYESIEUNG-PANSIOScPHIEUPH-PIEUPcKAPYEOUNPHIEUPHcHIEUH-NIEUNcHIEUH-RIEUL",
  "11F7cHIEUH-MIEUMcHIEUH-PIEUPcYEORINHIEUHcKIYEOK-NIEUNcKIYEOK-PIEUPcKIYEOK-CHIEUCH",
  "11FDcKIYEOK-KHIEUKHcKIYEOK-HIEUHcSSANGNIEUNaETHIOPIC SYLLABLE HAcHUcHIcHAAcHEEcHEcHOcHOAcLA",
  "1209cLUcLIcLAAcLEEcLEcLOcLWAcHHAcHHUcHHIcHHAAcHHEEcHHEcHHOcHHWAcMAcMUcMIcMAAcMEEcMEcMOcMWA",
  "1220cSZAcSZUcSZIcSZAAcSZEEcSZEcSZOcSZWAcRAcRUcRIcRAAcREEcREcROcRWAcSAcSUcSIcSAAcSEEcSEcSO",
  "1237cSWAcSHAcSHUcSHIcSHAAcSHEEcSHEcSHOcSHWAcQAcQUcQIcQAAcQEEcQEcQOcQOAcQWA",
  "124AcQWIcQWAAcQWEEcQWE",
  "1250cQHAcQHUcQHIcQHAAcQHEEcQHEcQHO",
  "1258cQHWA",
  "125AcQHWIcQHWAAcQHWEEcQHWE",
  "1260cBAcBUcBIcBAAcBEEcBEcBOcBWAcVAcVUcVIcVAAcVEEcVEcVOcVWAcTAcTUcTIcTAAcTEEcTEcTOcTWAcCAcCU",
  "127AcCIcCAAcCEEcCEcCOcCWAcXAcXUcXIcXAAcXEEcXEcXOcXOAcXWA",
  "128AcXWIcXWAAcXWEEcXWE",
  "1290cNAcNUcNIcNAAcNEEcNEcNOcNWAcNYAcNYUcNYIcNYAAcNYEEcNYEcNYOcNYWAcGLOTTAL AdUdIdAAdEEdEdO",
  "12A7dWAcKAcKUcKIcKAAcKEEcKEcKOcKOAcKWA",
  "12B2cKWIcKWAAcKWEEcKWE",
  "12B8cKXAcKXUcKXIcKXAAcKXEEcKXEcKXO",
  "12C0cKXWA",
  "12C2cKXWIcKXWAAcKXWEEcKXWE",
  "12C8cWAcWUcWIcWAAcWEEcWEcWOcWOAcPHARYNGEAL AdUdIdAAdEEdEdO",
  "12D8cZAcZUcZIcZAAcZEEcZEcZOcZWAcZHAcZHUcZHIcZHAAcZHEEcZHEcZHOcZHWAcYAcYUcYIcYAAcYEEcYEcYO",
  "12EFcYOAcDAcDUcDIcDAAcDEEcDEcDOcDWAcDDAcDDUcDDIcDDAAcDDEEcDDEcDDOcDDWAcJAcJUcJIcJAAcJEEcJE",
  "1306cJOcJWAcGAcGUcGIcGAAcGEEcGEcGOcGOAcGWA",
  "1312cGWIcGWAAcGWEEcGWE",
  "1318cGGAcGGUcGGIcGGAAcGGEEcGGEcGGOcGGWAAcTHAcTHUcTHIcTHAAcTHEEcTHEcTHOcTHWAcCHAcCHUcCHIcCHAA",
  "132CcCHEEcCHEcCHOcCHWAcPHAcPHUcPHIcPHAAcPHEEcPHEcPHOcPHWAcTSAcTSUcTSIcTSAAcTSEEcTSEcTSOcTSWA",
  "1340cTZAcTZUcTZIcTZAAcTZEEcTZEcTZOcTZOAcFAcFUcFIcFAAcFEEcFEcFOcFWAcPAcPUcPIcPAAcPEEcPEcPO",
  "1357cPWAcRYAcMYAcFYA",
  "135DbCOMBINING GEMINATION AND VOWEL LENGTH MARKcVOWEL LENGTH MARKcGEMINATION MARK",
  "1360bSECTION MARKbWORDSPACEbFULL STOPbCOMMAbSEMICOLONbCOLONbPREFACE COLONbQUESTION MARK",
  "1368bPARAGRAPH SEPARATORbDIGIT ONEcTWOcTHREEcFOURcFIVEcSIXcSEVENcEIGHTcNINEbNUMBER TEN",
  "1373cTWENTYcTHIRTYcFORTYcFIFTYcSIXTYcSEVENTYcEIGHTYcNINETYcHUNDREDcTEN THOUSAND",
  "1380bSYLLABLE SEBATBEIT MWAcMWIcMWEEcMWEcSEBATBEIT BWAcBWIcBWEEcBWEcSEBATBEIT FWAcFWIcFWEE",
  "138BcFWEcSEBATBEIT PWAcPWIcPWEEcPWEbTONAL MARK YIZETdDERETdRIKRIKdSHORT RIKRIKdDIFATdKENAT",
  "1396dCHIRETdHIDETdDERET-HIDETdKURT",
  "13A0aCHEROKEE LETTER AcEcIcOcUcVcGAcKAcGEcGIcGOcGUcGVcHAcHEcHIcHOcHUcHVcLAcLEcLIcLOcLUcLVcMA",
  "13BAcMEcMIcMOcMUcNAcHNAcNAHcNEcNIcNOcNUcNVcQUAcQUEcQUIcQUOcQUUcQUVcSAcScSEcSIcSOcSUcSVcDAcTA",
  "13D5cDEcTEcDIcTIcDOcDUcDVcDLAcTLAcTLEcTLIcTLOcTLUcTLVcTSAcTSEcTSIcTSOcTSUcTSVcWAcWEcWIcWOcWU",
  "13EEcWVcYAcYEcYIcYOcYUcYVcMV",
  "13F8bSMALL LETTER YEdYIdYOdYUdYVdMV"]

end Stencil.CodePoint.Name
