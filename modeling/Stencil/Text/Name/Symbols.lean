/-!
# Names of symbols

The names of the code points from 2000 to 2BFF: punctuation, signs of currencies, arrows,
mathematical operators and shapes. The rows are read by the lookup of names.

## Main definitions

* `CodePoint.Name.symbols` — the rows.
-/

namespace Stencil.CodePoint.Name

/-- The names of the code points from 2000 to 2BFF. -/
def symbols : List String :=
  ["2000aEN QUADaEM QUADaEN SPACEaEM SPACEaTHREE-PER-EM SPACEaFOUR-PER-EM SPACEaSIX-PER-EM SPACE",
  "2007aFIGURE SPACEaPUNCTUATION SPACEaTHIN SPACEaHAIR SPACEaZERO WIDTH SPACEcNON-JOINERcJOINER",
  "200EaLEFT-TO-RIGHT MARKaRIGHT-TO-LEFT MARKaHYPHENaNON-BREAKING HYPHENaFIGURE DASHaEN DASH",
  "2014aEM DASHaHORIZONTAL BARaDOUBLE VERTICAL LINEbLOW LINEaLEFT SINGLE QUOTATION MARK",
  "2019aRIGHT SINGLE QUOTATION MARKaSINGLE LOW-9 QUOTATION MARKbHIGH-REVERSED-9 QUOTATION MARK",
  "201CaLEFT DOUBLE QUOTATION MARKaRIGHT DOUBLE QUOTATION MARKaDOUBLE LOW-9 QUOTATION MARK",
  "201FbHIGH-REVERSED-9 QUOTATION MARKaDAGGERaDOUBLE DAGGERaBULLETaTRIANGULAR BULLET",
  "2024aONE DOT LEADERaTWO DOT LEADERaHORIZONTAL ELLIPSISaHYPHENATION POINTaLINE SEPARATOR",
  "2029aPARAGRAPH SEPARATORaLEFT-TO-RIGHT EMBEDDINGaRIGHT-TO-LEFT EMBEDDING",
  "202CaPOP DIRECTIONAL FORMATTINGaLEFT-TO-RIGHT OVERRIDEaRIGHT-TO-LEFT OVERRIDE",
  "202FaNARROW NO-BREAK SPACEaPER MILLE SIGNbTEN THOUSAND SIGNaPRIMEaDOUBLE PRIMEaTRIPLE PRIME",
  "2035aREVERSED PRIMEbDOUBLE PRIMEbTRIPLE PRIMEaCARET",
  "2039aSINGLE LEFT-POINTING ANGLE QUOTATION MARKbRIGHT-POINTING ANGLE QUOTATION MARK",
  "203BaREFERENCE MARKaDOUBLE EXCLAMATION MARKaINTERROBANGaOVERLINEaUNDERTIEaCHARACTER TIE",
  "2041aCARET INSERTION POINTaASTERISMaHYPHEN BULLETaFRACTION SLASH",
  "2045aLEFT SQUARE BRACKET WITH QUILLaRIGHT SQUARE BRACKET WITH QUILLaDOUBLE QUESTION MARK",
  "2048aQUESTION EXCLAMATION MARKaEXCLAMATION QUESTION MARKaTIRONIAN SIGN ET",
  "204BaREVERSED PILCROW SIGNaBLACK LEFTWARDS BULLETbRIGHTWARDS BULLETaLOW ASTERISK",
  "204FaREVERSED SEMICOLONaCLOSE UPaTWO ASTERISKS ALIGNED VERTICALLYaCOMMERCIAL MINUS SIGN",
  "2053aSWUNG DASHaINVERTED UNDERTIEaFLOWER PUNCTUATION MARKaTHREE DOT PUNCTUATION",
  "2057aQUADRUPLE PRIMEaFOUR DOT PUNCTUATIONaFIVE DOT PUNCTUATIONaTWO DOT PUNCTUATION",
  "205BaFOUR DOT MARKaDOTTED CROSSaTRICOLONaVERTICAL FOUR DOTSaMEDIUM MATHEMATICAL SPACE",
  "2060aWORD JOINERaFUNCTION APPLICATIONaINVISIBLE TIMESbSEPARATORbPLUS",
  "2066aLEFT-TO-RIGHT ISOLATEaRIGHT-TO-LEFT ISOLATEaFIRST STRONG ISOLATE",
  "2069aPOP DIRECTIONAL ISOLATEaINHIBIT SYMMETRIC SWAPPINGaACTIVATE SYMMETRIC SWAPPING",
  "206CaINHIBIT ARABIC FORM SHAPINGaACTIVATE ARABIC FORM SHAPINGaNATIONAL DIGIT SHAPES",
  "206FaNOMINAL DIGIT SHAPESaSUPERSCRIPT ZERObLATIN SMALL LETTER I",
  "2074bFOURbFIVEbSIXbSEVENbEIGHTbNINEbPLUS SIGNbMINUSbEQUALS SIGNbLEFT PARENTHESIS",
  "207EbRIGHT PARENTHESISbLATIN SMALL LETTER NaSUBSCRIPT ZERObONEbTWObTHREEbFOURbFIVEbSIXbSEVEN",
  "2088bEIGHTbNINEbPLUS SIGNbMINUSbEQUALS SIGNbLEFT PARENTHESISbRIGHT PARENTHESIS",
  "2090aLATIN SUBSCRIPT SMALL LETTER AeEeOeXeSCHWAeHeKeLeMeNePeSeT",
  "20A0aEURO-CURRENCY SIGNaCOLON SIGNaCRUZEIRO SIGNaFRENCH FRANC SIGNaLIRA SIGNaMILL SIGN",
  "20A6aNAIRA SIGNaPESETA SIGNaRUPEE SIGNaWON SIGNaNEW SHEQEL SIGNaDONG SIGNaEURO SIGNaKIP SIGN",
  "20AEaTUGRIK SIGNaDRACHMA SIGNaGERMAN PENNY SIGNaPESO SIGNaGUARANI SIGNaAUSTRAL SIGN",
  "20B4aHRYVNIA SIGNaCEDI SIGNaLIVRE TOURNOIS SIGNaSPESMILO SIGNaTENGE SIGNaINDIAN RUPEE SIGN",
  "20BAaTURKISH LIRA SIGNaNORDIC MARK SIGNaMANAT SIGNaRUBLE SIGNaLARI SIGNaBITCOIN SIGN",
  "20C0aSOM SIGN",
  "20D0aCOMBINING LEFT HARPOON ABOVEbRIGHT HARPOON ABOVEbLONG VERTICAL LINE OVERLAY",
  "20D3bSHORT VERTICAL LINE OVERLAYbANTICLOCKWISE ARROW ABOVEbCLOCKWISE ARROW ABOVE",
  "20D6bLEFT ARROW ABOVEbRIGHT ARROW ABOVEbRING OVERLAYbCLOCKWISE RING OVERLAY",
  "20DAbANTICLOCKWISE RING OVERLAYbTHREE DOTS ABOVEbFOUR DOTS ABOVEbENCLOSING CIRCLEcSQUARE",
  "20DFcDIAMONDcCIRCLE BACKSLASHbLEFT RIGHT ARROW ABOVEbENCLOSING SCREENcKEYCAP",
  "20E4cUPWARD POINTING TRIANGLEbREVERSE SOLIDUS OVERLAYbDOUBLE VERTICAL STROKE OVERLAY",
  "20E7bANNUITY SYMBOLbTRIPLE UNDERDOTbWIDE BRIDGE ABOVEbLEFTWARDS ARROW OVERLAY",
  "20EBbLONG DOUBLE SOLIDUS OVERLAYbRIGHTWARDS HARPOON WITH BARB DOWNWARDS",
  "20EDbLEFTWARDS HARPOON WITH BARB DOWNWARDSbLEFT ARROW BELOWbRIGHT ARROW BELOWbASTERISK ABOVE",
  "2100aACCOUNT OFaADDRESSED TO THE SUBJECTaDOUBLE-STRUCK CAPITAL CaDEGREE CELSIUS",
  "2104aCENTRE LINE SYMBOLaCARE OFaCADA UNAaEULER CONSTANTaSCRUPLEaDEGREE FAHRENHEIT",
  "210AaSCRIPT SMALL GbCAPITAL HaBLACK-LETTER CAPITAL HaDOUBLE-STRUCK CAPITAL HaPLANCK CONSTANT",
  "210FcOVER TWO PIaSCRIPT CAPITAL IaBLACK-LETTER CAPITAL IaSCRIPT CAPITAL LbSMALL L",
  "2114aL B BAR SYMBOLaDOUBLE-STRUCK CAPITAL NaNUMERO SIGNaSOUND RECORDING COPYRIGHT",
  "2118aSCRIPT CAPITAL PaDOUBLE-STRUCK CAPITAL PcQaSCRIPT CAPITAL RaBLACK-LETTER CAPITAL R",
  "211DaDOUBLE-STRUCK CAPITAL RaPRESCRIPTION TAKEaRESPONSEaSERVICE MARKaTELEPHONE SIGN",
  "2122aTRADE MARK SIGNaVERSICLEaDOUBLE-STRUCK CAPITAL ZaOUNCE SIGNaOHM SIGNaINVERTED OHM SIGN",
  "2128aBLACK-LETTER CAPITAL ZaTURNED GREEK SMALL LETTER IOTAaKELVIN SIGNaANGSTROM SIGN",
  "212CaSCRIPT CAPITAL BaBLACK-LETTER CAPITAL CaESTIMATED SYMBOLaSCRIPT SMALL EbCAPITAL EcF",
  "2132aTURNED CAPITAL FaSCRIPT CAPITAL MbSMALL OaALEF SYMBOLaBET SYMBOLaGIMEL SYMBOL",
  "2138aDALET SYMBOLaINFORMATION SOURCEaROTATED CAPITAL QaFACSIMILE SIGNaDOUBLE-STRUCK SMALL PI",
  "213DcGAMMAbCAPITAL GAMMAcPIbN-ARY SUMMATIONaTURNED SANS-SERIF CAPITAL GdL",
  "2143aREVERSED SANS-SERIF CAPITAL LaTURNED SANS-SERIF CAPITAL Y",
  "2145aDOUBLE-STRUCK ITALIC CAPITAL DcSMALL DdEdIdJaPROPERTY LINEaTURNED AMPERSANDaPER SIGN",
  "214DaAKTIESELSKABaTURNED SMALL FaSYMBOL FOR SAMARITAN SOURCEaVULGAR FRACTION ONE SEVENTH",
  "2151dNINTHdTENTHdTHIRDcTWO THIRDScONE FIFTHcTWO FIFTHScTHREE FIFTHScFOUR FIFTHScONE SIXTH",
  "215AcFIVE SIXTHScONE EIGHTHcTHREE EIGHTHScFIVE EIGHTHScSEVEN EIGHTHSaFRACTION NUMERATOR ONE",
  "2160aROMAN NUMERAL ONEcTWOcTHREEcFOURcFIVEcSIXcSEVENcEIGHTcNINEcTENcELEVENcTWELVEcFIFTY",
  "216DcONE HUNDREDcFIVE HUNDREDcONE THOUSANDaSMALL ROMAN NUMERAL ONEdTWOdTHREEdFOURdFIVEdSIX",
  "2176dSEVENdEIGHTdNINEdTENdELEVENdTWELVEdFIFTYdONE HUNDREDdFIVE HUNDREDdONE THOUSAND",
  "2180aROMAN NUMERAL ONE THOUSAND C DcFIVE THOUSANDcTEN THOUSANDcREVERSED ONE HUNDRED",
  "2184aLATIN SMALL LETTER REVERSED CaROMAN NUMERAL SIX LATE FORMcFIFTY EARLY FORMdTHOUSAND",
  "2188cONE HUNDRED THOUSANDaVULGAR FRACTION ZERO THIRDSaTURNED DIGIT TWOcTHREE",
  "2190aLEFTWARDS ARROWaUPWARDS ARROWaRIGHTWARDS ARROWaDOWNWARDS ARROWaLEFT RIGHT ARROW",
  "2195aUP DOWN ARROWaNORTH WEST ARROWbEAST ARROWaSOUTH EAST ARROWbWEST ARROW",
  "219AaLEFTWARDS ARROW WITH STROKEaRIGHTWARDS ARROW WITH STROKEaLEFTWARDS WAVE ARROW",
  "219DaRIGHTWARDS WAVE ARROWaLEFTWARDS TWO HEADED ARROWaUPWARDS TWO HEADED ARROW",
  "21A0aRIGHTWARDS TWO HEADED ARROWaDOWNWARDS TWO HEADED ARROWaLEFTWARDS ARROW WITH TAIL",
  "21A3aRIGHTWARDS ARROW WITH TAILaLEFTWARDS ARROW FROM BARaUPWARDS ARROW FROM BAR",
  "21A6aRIGHTWARDS ARROW FROM BARaDOWNWARDS ARROW FROM BARaUP DOWN ARROW WITH BASE",
  "21A9aLEFTWARDS ARROW WITH HOOKaRIGHTWARDS ARROW WITH HOOKaLEFTWARDS ARROW WITH LOOP",
  "21ACaRIGHTWARDS ARROW WITH LOOPaLEFT RIGHT WAVE ARROWcARROW WITH STROKE",
  "21AFaDOWNWARDS ZIGZAG ARROWaUPWARDS ARROW WITH TIP LEFTWARDSeRIGHTWARDS",
  "21B2aDOWNWARDS ARROW WITH TIP LEFTWARDSeRIGHTWARDSaRIGHTWARDS ARROW WITH CORNER DOWNWARDS",
  "21B5aDOWNWARDS ARROW WITH CORNER LEFTWARDSaANTICLOCKWISE TOP SEMICIRCLE ARROW",
  "21B7aCLOCKWISE TOP SEMICIRCLE ARROWaNORTH WEST ARROW TO LONG BAR",
  "21B9aLEFTWARDS ARROW TO BAR OVER RIGHTWARDS ARROW TO BARaANTICLOCKWISE OPEN CIRCLE ARROW",
  "21BBaCLOCKWISE OPEN CIRCLE ARROWaLEFTWARDS HARPOON WITH BARB UPWARDSeDOWNWARDS",
  "21BEaUPWARDS HARPOON WITH BARB RIGHTWARDSeLEFTWARDSaRIGHTWARDS HARPOON WITH BARB UPWARDS",
  "21C1eDOWNWARDSaDOWNWARDS HARPOON WITH BARB RIGHTWARDSeLEFTWARDS",
  "21C4aRIGHTWARDS ARROW OVER LEFTWARDS ARROWaUPWARDS ARROW LEFTWARDS OF DOWNWARDS ARROW",
  "21C6aLEFTWARDS ARROW OVER RIGHTWARDS ARROWbPAIRED ARROWSaUPWARDS PAIRED ARROWS",
  "21C9aRIGHTWARDS PAIRED ARROWSaDOWNWARDS PAIRED ARROWS",
  "21CBaLEFTWARDS HARPOON OVER RIGHTWARDS HARPOONaRIGHTWARDS HARPOON OVER LEFTWARDS HARPOON",
  "21CDaLEFTWARDS DOUBLE ARROW WITH STROKEaLEFT RIGHT DOUBLE ARROW WITH STROKE",
  "21CFaRIGHTWARDS DOUBLE ARROW WITH STROKEaLEFTWARDS DOUBLE ARROWaUPWARDS DOUBLE ARROW",
  "21D2aRIGHTWARDS DOUBLE ARROWaDOWNWARDS DOUBLE ARROWaLEFT RIGHT DOUBLE ARROW",
  "21D5aUP DOWN DOUBLE ARROWaNORTH WEST DOUBLE ARROWbEAST DOUBLE ARROWaSOUTH EAST DOUBLE ARROW",
  "21D9bWEST DOUBLE ARROWaLEFTWARDS TRIPLE ARROWaRIGHTWARDS TRIPLE ARROW",
  "21DCaLEFTWARDS SQUIGGLE ARROWaRIGHTWARDS SQUIGGLE ARROWaUPWARDS ARROW WITH DOUBLE STROKE",
  "21DFaDOWNWARDS ARROW WITH DOUBLE STROKEaLEFTWARDS DASHED ARROWaUPWARDS DASHED ARROW",
  "21E2aRIGHTWARDS DASHED ARROWaDOWNWARDS DASHED ARROWaLEFTWARDS ARROW TO BAR",
  "21E5aRIGHTWARDS ARROW TO BARaLEFTWARDS WHITE ARROWaUPWARDS WHITE ARROW",
  "21E8aRIGHTWARDS WHITE ARROWaDOWNWARDS WHITE ARROWaUPWARDS WHITE ARROW FROM BARdON PEDESTAL",
  "21ECfWITH HORIZONTAL BARgVERTICAL BARcDOUBLE ARROWeON PEDESTAL",
  "21F0aRIGHTWARDS WHITE ARROW FROM WALLaNORTH WEST ARROW TO CORNERaSOUTH EAST ARROW TO CORNER",
  "21F3aUP DOWN WHITE ARROWaRIGHT ARROW WITH SMALL CIRCLE",
  "21F5aDOWNWARDS ARROW LEFTWARDS OF UPWARDS ARROWaTHREE RIGHTWARDS ARROWS",
  "21F7aLEFTWARDS ARROW WITH VERTICAL STROKEaRIGHTWARDS ARROW WITH VERTICAL STROKE",
  "21F9aLEFT RIGHT ARROW WITH VERTICAL STROKEaLEFTWARDS ARROW WITH DOUBLE VERTICAL STROKE",
  "21FBaRIGHTWARDS ARROW WITH DOUBLE VERTICAL STROKE",
  "21FCaLEFT RIGHT ARROW WITH DOUBLE VERTICAL STROKEaLEFTWARDS OPEN-HEADED ARROW",
  "21FEaRIGHTWARDS OPEN-HEADED ARROWaLEFT RIGHT OPEN-HEADED ARROWaFOR ALLaCOMPLEMENT",
  "2202aPARTIAL DIFFERENTIALaTHERE EXISTSbDOES NOT EXISTaEMPTY SETaINCREMENTaNABLAaELEMENT OF",
  "2209aNOT AN ELEMENT OFaSMALL ELEMENT OFaCONTAINS AS MEMBERaDOES NOT CONTAIN AS MEMBER",
  "220DaSMALL CONTAINS AS MEMBERaEND OF PROOFaN-ARY PRODUCTbCOPRODUCTbSUMMATIONaMINUS SIGN",
  "2213aMINUS-OR-PLUS SIGNaDOT PLUSaDIVISION SLASHaSET MINUSaASTERISK OPERATORaRING OPERATOR",
  "2219aBULLET OPERATORaSQUARE ROOTaCUBE ROOTaFOURTH ROOTaPROPORTIONAL TOaINFINITYaRIGHT ANGLE",
  "2220aANGLEaMEASURED ANGLEaSPHERICAL ANGLEaDIVIDESaDOES NOT DIVIDEaPARALLEL TO",
  "2226aNOT PARALLEL TOaLOGICAL ANDbORaINTERSECTIONaUNIONaINTEGRALaDOUBLE INTEGRAL",
  "222DaTRIPLE INTEGRALaCONTOUR INTEGRALaSURFACE INTEGRALaVOLUME INTEGRALaCLOCKWISE INTEGRAL",
  "2232bCONTOUR INTEGRALaANTICLOCKWISE CONTOUR INTEGRALaTHEREFOREaBECAUSEaRATIOaPROPORTION",
  "2238aDOT MINUSaEXCESSaGEOMETRIC PROPORTIONaHOMOTHETICaTILDE OPERATORaREVERSED TILDE",
  "223EaINVERTED LAZY SaSINE WAVEaWREATH PRODUCTaNOT TILDEaMINUS TILDEaASYMPTOTICALLY EQUAL TO",
  "2244aNOT ASYMPTOTICALLY EQUAL TOaAPPROXIMATELY EQUAL TObBUT NOT ACTUALLY EQUAL TO",
  "2247aNEITHER APPROXIMATELY NOR ACTUALLY EQUAL TOaALMOST EQUAL TOaNOT ALMOST EQUAL TO",
  "224AaALMOST EQUAL OR EQUAL TOaTRIPLE TILDEaALL EQUAL TOaEQUIVALENT TO",
  "224EaGEOMETRICALLY EQUIVALENT TOaDIFFERENCE BETWEENaAPPROACHES THE LIMIT",
  "2251aGEOMETRICALLY EQUAL TOaAPPROXIMATELY EQUAL TO OR THE IMAGE OF",
  "2253aIMAGE OF OR APPROXIMATELY EQUAL TOaCOLON EQUALSaEQUALS COLONaRING IN EQUAL TObEQUAL TO",
  "2258aCORRESPONDS TOaESTIMATESaEQUIANGULAR TOaSTAR EQUALSaDELTA EQUAL TO",
  "225DaEQUAL TO BY DEFINITIONaMEASURED BYaQUESTIONED EQUAL TOaNOT EQUAL TOaIDENTICAL TO",
  "2262aNOT IDENTICAL TOaSTRICTLY EQUIVALENT TOaLESS-THAN OR EQUAL TOaGREATER-THAN OR EQUAL TO",
  "2266aLESS-THAN OVER EQUAL TOaGREATER-THAN OVER EQUAL TOaLESS-THAN BUT NOT EQUAL TO",
  "2269aGREATER-THAN BUT NOT EQUAL TOaMUCH LESS-THANbGREATER-THANaBETWEENaNOT EQUIVALENT TO",
  "226EbLESS-THANbGREATER-THANaNEITHER LESS-THAN NOR EQUAL TObGREATER-THAN NOR EQUAL TO",
  "2272aLESS-THAN OR EQUIVALENT TOaGREATER-THAN OR EQUIVALENT TO",
  "2274aNEITHER LESS-THAN NOR EQUIVALENT TObGREATER-THAN NOR EQUIVALENT TO",
  "2276aLESS-THAN OR GREATER-THANaGREATER-THAN OR LESS-THANaNEITHER LESS-THAN NOR GREATER-THAN",
  "2279bGREATER-THAN NOR LESS-THANaPRECEDESaSUCCEEDSaPRECEDES OR EQUAL TOaSUCCEEDS OR EQUAL TO",
  "227EaPRECEDES OR EQUIVALENT TOaSUCCEEDS OR EQUIVALENT TOaDOES NOT PRECEDEcSUCCEEDaSUBSET OF",
  "2283aSUPERSET OFaNOT A SUBSET OFcSUPERSET OFaSUBSET OF OR EQUAL TOaSUPERSET OF OR EQUAL TO",
  "2288aNEITHER A SUBSET OF NOR EQUAL TOcSUPERSET OF NOR EQUAL TOaSUBSET OF WITH NOT EQUAL TO",
  "228BaSUPERSET OF WITH NOT EQUAL TOaMULTISETbMULTIPLICATIONbUNIONaSQUARE IMAGE OFbORIGINAL OF",
  "2291bIMAGE OF OR EQUAL TObORIGINAL OF OR EQUAL TObCAPbCUPaCIRCLED PLUSbMINUSbTIMES",
  "2298bDIVISION SLASHbDOT OPERATORbRING OPERATORbASTERISK OPERATORbEQUALSbDASHaSQUARED PLUS",
  "229FbMINUSbTIMESbDOT OPERATORaRIGHT TACKaLEFT TACKaDOWN TACKaUP TACKaASSERTIONaMODELSaTRUE",
  "22A9aFORCESaTRIPLE VERTICAL BAR RIGHT TURNSTILEaDOUBLE VERTICAL BAR DOUBLE RIGHT TURNSTILE",
  "22ACaDOES NOT PROVEaNOT TRUEaDOES NOT FORCE",
  "22AFaNEGATED DOUBLE VERTICAL BAR DOUBLE RIGHT TURNSTILEaPRECEDES UNDER RELATION",
  "22B1aSUCCEEDS UNDER RELATIONaNORMAL SUBGROUP OFaCONTAINS AS NORMAL SUBGROUP",
  "22B4aNORMAL SUBGROUP OF OR EQUAL TOaCONTAINS AS NORMAL SUBGROUP OR EQUAL TOaORIGINAL OF",
  "22B7aIMAGE OFaMULTIMAPaHERMITIAN CONJUGATE MATRIXaINTERCALATEaXORaNANDaNOR",
  "22BEaRIGHT ANGLE WITH ARCbTRIANGLEaN-ARY LOGICAL ANDcORbINTERSECTIONbUNIONaDIAMOND OPERATOR",
  "22C5aDOT OPERATORaSTAR OPERATORaDIVISION TIMESaBOWTIEaLEFT NORMAL FACTOR SEMIDIRECT PRODUCT",
  "22CAaRIGHT NORMAL FACTOR SEMIDIRECT PRODUCTaLEFT SEMIDIRECT PRODUCTaRIGHT SEMIDIRECT PRODUCT",
  "22CDaREVERSED TILDE EQUALSaCURLY LOGICAL ORcANDaDOUBLE SUBSETbSUPERSETbINTERSECTIONbUNION",
  "22D4aPITCHFORKaEQUAL AND PARALLEL TOaLESS-THAN WITH DOTaGREATER-THAN WITH DOT",
  "22D8aVERY MUCH LESS-THANcGREATER-THANaLESS-THAN EQUAL TO OR GREATER-THAN",
  "22DBaGREATER-THAN EQUAL TO OR LESS-THANaEQUAL TO OR LESS-THANdGREATER-THANdPRECEDESdSUCCEEDS",
  "22E0aDOES NOT PRECEDE OR EQUALcSUCCEED OR EQUALaNOT SQUARE IMAGE OF OR EQUAL TO",
  "22E3cORIGINAL OF OR EQUAL TOaSQUARE IMAGE OF OR NOT EQUAL TObORIGINAL OF OR NOT EQUAL TO",
  "22E6aLESS-THAN BUT NOT EQUIVALENT TOaGREATER-THAN BUT NOT EQUIVALENT TO",
  "22E8aPRECEDES BUT NOT EQUIVALENT TOaSUCCEEDS BUT NOT EQUIVALENT TOaNOT NORMAL SUBGROUP OF",
  "22EBaDOES NOT CONTAIN AS NORMAL SUBGROUPaNOT NORMAL SUBGROUP OF OR EQUAL TO",
  "22EDaDOES NOT CONTAIN AS NORMAL SUBGROUP OR EQUALaVERTICAL ELLIPSIS",
  "22EFaMIDLINE HORIZONTAL ELLIPSISaUP RIGHT DIAGONAL ELLIPSISaDOWN RIGHT DIAGONAL ELLIPSIS",
  "22F2aELEMENT OF WITH LONG HORIZONTAL STROKEdVERTICAL BAR AT END OF HORIZONTAL STROKE",
  "22F4aSMALL ELEMENT OF WITH VERTICAL BAR AT END OF HORIZONTAL STROKE",
  "22F5aELEMENT OF WITH DOT ABOVEdOVERBARaSMALL ELEMENT OF WITH OVERBAR",
  "22F8aELEMENT OF WITH UNDERBARdTWO HORIZONTAL STROKESaCONTAINS WITH LONG HORIZONTAL STROKE",
  "22FBcVERTICAL BAR AT END OF HORIZONTAL STROKE",
  "22FCaSMALL CONTAINS WITH VERTICAL BAR AT END OF HORIZONTAL STROKEaCONTAINS WITH OVERBAR",
  "22FEaSMALL CONTAINS WITH OVERBARaZ NOTATION BAG MEMBERSHIPaDIAMETER SIGNaELECTRIC ARROW",
  "2302aHOUSEaUP ARROWHEADaDOWN ARROWHEADaPROJECTIVEaPERSPECTIVEaWAVY LINEaLEFT CEILING",
  "2309aRIGHT CEILINGaLEFT FLOORaRIGHT FLOORaBOTTOM RIGHT CROPbLEFT CROPaTOP RIGHT CROP",
  "230FbLEFT CROPaREVERSED NOT SIGNaSQUARE LOZENGEaARCaSEGMENTaSECTORaTELEPHONE RECORDER",
  "2316aPOSITION INDICATORaVIEWDATA SQUAREaPLACE OF INTEREST SIGNaTURNED NOT SIGNaWATCH",
  "231BaHOURGLASSaTOP LEFT CORNERbRIGHT CORNERaBOTTOM LEFT CORNERbRIGHT CORNER",
  "2320aTOP HALF INTEGRALaBOTTOM HALF INTEGRALaFROWNaSMILE",
  "2324aUP ARROWHEAD BETWEEN TWO HORIZONTAL BARSaOPTION KEYaERASE TO THE RIGHT",
  "2327aX IN A RECTANGLE BOXaKEYBOARDaLEFT-POINTING ANGLE BRACKETaRIGHT-POINTING ANGLE BRACKET",
  "232BaERASE TO THE LEFTaBENZENE RINGaCYLINDRICITYaALL AROUND-PROFILEaSYMMETRYaTOTAL RUNOUT",
  "2331aDIMENSION ORIGINaCONICAL TAPERaSLOPEaCOUNTERBOREaCOUNTERSINK",
  "2336aAPL FUNCTIONAL SYMBOL I-BEAMdSQUISH QUADdQUAD EQUALeDIVIDEeDIAMONDeJOTeCIRCLE",
  "233DdCIRCLE STILEeJOTdSLASH BARdBACKSLASH BARdQUAD SLASHeBACKSLASHeLESS-THANeGREATER-THAN",
  "2345dLEFTWARDS VANEdRIGHTWARDS VANEdQUAD LEFTWARDS ARROWeRIGHTWARDS ARROWdCIRCLE BACKSLASH",
  "234AdDOWN TACK UNDERBARdDELTA STILEdQUAD DOWN CARETeDELTAdDOWN TACK JOTdUPWARDS VANE",
  "2350dQUAD UPWARDS ARROWdUP TACK OVERBARdDEL STILEdQUAD UP CARETeDELdUP TACK JOT",
  "2356dDOWNWARDS VANEdQUAD DOWNWARDS ARROWdQUOTE UNDERBARdDELTA UNDERBARdDIAMOND UNDERBAR",
  "235BdJOT UNDERBARdCIRCLE UNDERBARdUP SHOE JOTdQUOTE QUADdCIRCLE STARdQUAD COLON",
  "2361dUP TACK DIAERESISdDEL DIAERESISdSTAR DIAERESISdJOT DIAERESISdCIRCLE DIAERESIS",
  "2366dDOWN SHOE STILEdLEFT SHOE STILEdTILDE DIAERESISdGREATER-THAN DIAERESISdCOMMA BAR",
  "236BdDEL TILDEdZILDEdSTILE TILDEdSEMICOLON UNDERBARdQUAD NOT EQUALeQUESTIONdDOWN CARET TILDE",
  "2372dUP CARET TILDEdIOTAdRHOdOMEGAdALPHA UNDERBARdEPSILON UNDERBARdIOTA UNDERBAR",
  "2379dOMEGA UNDERBARdALPHAaNOT CHECK MARKaRIGHT ANGLE WITH DOWNWARDS ZIGZAG ARROW",
  "237DaSHOULDERED OPEN BOXaBELL SYMBOLaVERTICAL LINE WITH MIDDLE DOTaINSERTION SYMBOL",
  "2381aCONTINUOUS UNDERLINE SYMBOLaDISCONTINUOUS UNDERLINE SYMBOLaEMPHASIS SYMBOL",
  "2384aCOMPOSITION SYMBOLaWHITE SQUARE WITH CENTRE VERTICAL LINEaENTER SYMBOL",
  "2387aALTERNATIVE KEY SYMBOLaHELM SYMBOLaCIRCLED HORIZONTAL BAR WITH NOTCHbTRIANGLE DOWN",
  "238BaBROKEN CIRCLE WITH NORTHWEST ARROWaUNDO SYMBOLaMONOSTABLE SYMBOLaHYSTERESIS SYMBOL",
  "238FaOPEN-CIRCUIT-OUTPUT H-TYPE SYMBOLbL-TYPE SYMBOLaPASSIVE-PULL-DOWN-OUTPUT SYMBOL",
  "2392aPASSIVE-PULL-UP-OUTPUT SYMBOLaDIRECT CURRENT SYMBOL FORM TWOaSOFTWARE-FUNCTION SYMBOL",
  "2395aAPL FUNCTIONAL SYMBOL QUADaDECIMAL SEPARATOR KEY SYMBOLaPREVIOUS PAGEaNEXT PAGE",
  "2399aPRINT SCREEN SYMBOLaCLEAR SCREEN SYMBOLaLEFT PARENTHESIS UPPER HOOKcEXTENSION",
  "239DcLOWER HOOKaRIGHT PARENTHESIS UPPER HOOKcEXTENSIONcLOWER HOOK",
  "23A1aLEFT SQUARE BRACKET UPPER CORNERdEXTENSIONdLOWER CORNER",
  "23A4aRIGHT SQUARE BRACKET UPPER CORNERdEXTENSIONdLOWER CORNERaLEFT CURLY BRACKET UPPER HOOK",
  "23A8dMIDDLE PIECEdLOWER HOOKaCURLY BRACKET EXTENSIONaRIGHT CURLY BRACKET UPPER HOOK",
  "23ACdMIDDLE PIECEdLOWER HOOKaINTEGRAL EXTENSIONaHORIZONTAL LINE EXTENSION",
  "23B0aUPPER LEFT OR LOWER RIGHT CURLY BRACKET SECTION",
  "23B1bRIGHT OR LOWER LEFT CURLY BRACKET SECTIONaSUMMATION TOPbBOTTOMaTOP SQUARE BRACKET",
  "23B5aBOTTOM SQUARE BRACKETdOVER TOP SQUARE BRACKETaRADICAL SYMBOL BOTTOM",
  "23B8aLEFT VERTICAL BOX LINEaRIGHT VERTICAL BOX LINEaHORIZONTAL SCAN LINE-1cLINE-3cLINE-7",
  "23BDcLINE-9aDENTISTRY SYMBOL LIGHT VERTICAL AND TOP RIGHTfBOTTOM RIGHTeWITH CIRCLE",
  "23C1dDOWN AND HORIZONTAL WITH CIRCLEdUP AND HORIZONTAL WITH CIRCLEdVERTICAL WITH TRIANGLE",
  "23C4dDOWN AND HORIZONTAL WITH TRIANGLEdUP AND HORIZONTAL WITH TRIANGLEdVERTICAL AND WAVE",
  "23C7dDOWN AND HORIZONTAL WITH WAVEdUP AND HORIZONTAL WITH WAVEdDOWN AND HORIZONTAL",
  "23CAdUP AND HORIZONTALdVERTICAL AND TOP LEFTfBOTTOM LEFTaSQUARE FOOTaRETURN SYMBOL",
  "23CFaEJECT SYMBOLaVERTICAL LINE EXTENSIONaMETRICAL BREVEbLONG OVER SHORTbSHORT OVER LONG",
  "23D4bLONG OVER TWO SHORTSbTWO SHORTS OVER LONGdJOINEDbTRISEMEbTETRASEMEbPENTASEME",
  "23DAaEARTH GROUNDaFUSEaTOP PARENTHESISaBOTTOM PARENTHESISaTOP CURLY BRACKET",
  "23DFaBOTTOM CURLY BRACKETaTOP TORTOISE SHELL BRACKETaBOTTOM TORTOISE SHELL BRACKET",
  "23E2aWHITE TRAPEZIUMaBENZENE RING WITH CIRCLEaSTRAIGHTNESSaFLATNESSaAC CURRENT",
  "23E7aELECTRICAL INTERSECTIONaDECIMAL EXPONENT SYMBOLaBLACK RIGHT-POINTING DOUBLE TRIANGLE",
  "23EAbLEFT-POINTING DOUBLE TRIANGLEbUP-POINTING DOUBLE TRIANGLEbDOWN-POINTING DOUBLE TRIANGLE",
  "23EDbRIGHT-POINTING DOUBLE TRIANGLE WITH VERTICAL BAR",
  "23EEbLEFT-POINTING DOUBLE TRIANGLE WITH VERTICAL BAR",
  "23EFbRIGHT-POINTING TRIANGLE WITH DOUBLE VERTICAL BARaALARM CLOCKaSTOPWATCHaTIMER CLOCK",
  "23F3aHOURGLASS WITH FLOWING SANDaBLACK MEDIUM LEFT-POINTING TRIANGLEcRIGHT-POINTING TRIANGLE",
  "23F6cUP-POINTING TRIANGLEcDOWN-POINTING TRIANGLEaDOUBLE VERTICAL BARaBLACK SQUARE FOR STOP",
  "23FAbCIRCLE FOR RECORDaPOWER SYMBOLbON-OFF SYMBOLbON SYMBOLbSLEEP SYMBOLaOBSERVER EYE SYMBOL",
  "2400aSYMBOL FOR NULLcSTART OF HEADINGeTEXTcEND OF TEXTeTRANSMISSIONcENQUIRYcACKNOWLEDGEcBELL",
  "2408cBACKSPACEcHORIZONTAL TABULATIONcLINE FEEDcVERTICAL TABULATIONcFORM FEEDcCARRIAGE RETURN",
  "240EcSHIFT OUTdINcDATA LINK ESCAPEcDEVICE CONTROL ONEeTWOeTHREEeFOURcNEGATIVE ACKNOWLEDGE",
  "2416cSYNCHRONOUS IDLEcEND OF TRANSMISSION BLOCKcCANCELcEND OF MEDIUMcSUBSTITUTEcESCAPE",
  "241CcFILE SEPARATORcGROUP SEPARATORcRECORD SEPARATORcUNIT SEPARATORcSPACEcDELETE",
  "2422aBLANK SYMBOLaOPEN BOXaSYMBOL FOR NEWLINEcDELETE FORM TWOcSUBSTITUTE FORM TWO",
  "2440aOCR HOOKbCHAIRbFORKbINVERTED FORKbBELT BUCKLEbBOW TIEbBRANCH BANK IDENTIFICATION",
  "2447bAMOUNT OF CHECKbDASHbCUSTOMER ACCOUNT NUMBERbDOUBLE BACKSLASH",
  "2460aCIRCLED DIGIT ONEcTWOcTHREEcFOURcFIVEcSIXcSEVENcEIGHTcNINEbNUMBER TENcELEVENcTWELVE",
  "246CcTHIRTEENcFOURTEENcFIFTEENcSIXTEENcSEVENTEENcEIGHTEENcNINETEENcTWENTY",
  "2474aPARENTHESIZED DIGIT ONEcTWOcTHREEcFOURcFIVEcSIXcSEVENcEIGHTcNINEbNUMBER TENcELEVEN",
  "247FcTWELVEcTHIRTEENcFOURTEENcFIFTEENcSIXTEENcSEVENTEENcEIGHTEENcNINETEENcTWENTY",
  "2488aDIGIT ONE FULL STOPbTWO FULL STOPbTHREE FULL STOPbFOUR FULL STOPbFIVE FULL STOP",
  "248DbSIX FULL STOPbSEVEN FULL STOPbEIGHT FULL STOPbNINE FULL STOPaNUMBER TEN FULL STOP",
  "2492bELEVEN FULL STOPbTWELVE FULL STOPbTHIRTEEN FULL STOPbFOURTEEN FULL STOP",
  "2496bFIFTEEN FULL STOPbSIXTEEN FULL STOPbSEVENTEEN FULL STOPbEIGHTEEN FULL STOP",
  "249AbNINETEEN FULL STOPbTWENTY FULL STOPaPARENTHESIZED LATIN SMALL LETTER AeBeCeDeEeFeGeHeI",
  "24A5eJeKeLeMeNeOePeQeReSeTeUeVeWeXeYeZaCIRCLED LATIN CAPITAL LETTER AeBeCeDeEeFeGeHeIeJeKeL",
  "24C2eMeNeOePeQeReSeTeUeVeWeXeYeZcSMALL LETTER AeBeCeDeEeFeGeHeIeJeKeLeMeNeOePeQeReSeTeUeVeW",
  "24E7eXeYeZbDIGIT ZEROaNEGATIVE CIRCLED NUMBER ELEVENdTWELVEdTHIRTEENdFOURTEENdFIFTEEN",
  "24F0dSIXTEENdSEVENTEENdEIGHTEENdNINETEENdTWENTYaDOUBLE CIRCLED DIGIT ONEdTWOdTHREEdFOURdFIVE",
  "24FAdSIXdSEVENdEIGHTdNINEcNUMBER TENaNEGATIVE CIRCLED DIGIT ZERO",
  "2500aBOX DRAWINGS LIGHT HORIZONTALcHEAVY HORIZONTALcLIGHT VERTICALcHEAVY VERTICAL",
  "2504cLIGHT TRIPLE DASH HORIZONTALcHEAVY TRIPLE DASH HORIZONTALcLIGHT TRIPLE DASH VERTICAL",
  "2507cHEAVY TRIPLE DASH VERTICALcLIGHT QUADRUPLE DASH HORIZONTAL",
  "2509cHEAVY QUADRUPLE DASH HORIZONTALcLIGHT QUADRUPLE DASH VERTICAL",
  "250BcHEAVY QUADRUPLE DASH VERTICALcLIGHT DOWN AND RIGHTcDOWN LIGHT AND RIGHT HEAVY",
  "250EdHEAVY AND RIGHT LIGHTcHEAVY DOWN AND RIGHTcLIGHT DOWN AND LEFT",
  "2511cDOWN LIGHT AND LEFT HEAVYdHEAVY AND LEFT LIGHTcHEAVY DOWN AND LEFTcLIGHT UP AND RIGHT",
  "2515cUP LIGHT AND RIGHT HEAVYdHEAVY AND RIGHT LIGHTcHEAVY UP AND RIGHTcLIGHT UP AND LEFT",
  "2519cUP LIGHT AND LEFT HEAVYdHEAVY AND LEFT LIGHTcHEAVY UP AND LEFTcLIGHT VERTICAL AND RIGHT",
  "251DcVERTICAL LIGHT AND RIGHT HEAVYcUP HEAVY AND RIGHT DOWN LIGHT",
  "251FcDOWN HEAVY AND RIGHT UP LIGHTcVERTICAL HEAVY AND RIGHT LIGHT",
  "2521cDOWN LIGHT AND RIGHT UP HEAVYcUP LIGHT AND RIGHT DOWN HEAVYcHEAVY VERTICAL AND RIGHT",
  "2524cLIGHT VERTICAL AND LEFTcVERTICAL LIGHT AND LEFT HEAVYcUP HEAVY AND LEFT DOWN LIGHT",
  "2527cDOWN HEAVY AND LEFT UP LIGHTcVERTICAL HEAVY AND LEFT LIGHTcDOWN LIGHT AND LEFT UP HEAVY",
  "252AcUP LIGHT AND LEFT DOWN HEAVYcHEAVY VERTICAL AND LEFTcLIGHT DOWN AND HORIZONTAL",
  "252DcLEFT HEAVY AND RIGHT DOWN LIGHTcRIGHT HEAVY AND LEFT DOWN LIGHT",
  "252FcDOWN LIGHT AND HORIZONTAL HEAVYdHEAVY AND HORIZONTAL LIGHT",
  "2531cRIGHT LIGHT AND LEFT DOWN HEAVYcLEFT LIGHT AND RIGHT DOWN HEAVY",
  "2533cHEAVY DOWN AND HORIZONTALcLIGHT UP AND HORIZONTALcLEFT HEAVY AND RIGHT UP LIGHT",
  "2536cRIGHT HEAVY AND LEFT UP LIGHTcUP LIGHT AND HORIZONTAL HEAVYdHEAVY AND HORIZONTAL LIGHT",
  "2539cRIGHT LIGHT AND LEFT UP HEAVYcLEFT LIGHT AND RIGHT UP HEAVYcHEAVY UP AND HORIZONTAL",
  "253CcLIGHT VERTICAL AND HORIZONTALcLEFT HEAVY AND RIGHT VERTICAL LIGHT",
  "253EcRIGHT HEAVY AND LEFT VERTICAL LIGHTcVERTICAL LIGHT AND HORIZONTAL HEAVY",
  "2540cUP HEAVY AND DOWN HORIZONTAL LIGHTcDOWN HEAVY AND UP HORIZONTAL LIGHT",
  "2542cVERTICAL HEAVY AND HORIZONTAL LIGHTcLEFT UP HEAVY AND RIGHT DOWN LIGHT",
  "2544cRIGHT UP HEAVY AND LEFT DOWN LIGHTcLEFT DOWN HEAVY AND RIGHT UP LIGHT",
  "2546cRIGHT DOWN HEAVY AND LEFT UP LIGHTcDOWN LIGHT AND UP HORIZONTAL HEAVY",
  "2548cUP LIGHT AND DOWN HORIZONTAL HEAVYcRIGHT LIGHT AND LEFT VERTICAL HEAVY",
  "254AcLEFT LIGHT AND RIGHT VERTICAL HEAVYcHEAVY VERTICAL AND HORIZONTAL",
  "254CcLIGHT DOUBLE DASH HORIZONTALcHEAVY DOUBLE DASH HORIZONTALcLIGHT DOUBLE DASH VERTICAL",
  "254FcHEAVY DOUBLE DASH VERTICALcDOUBLE HORIZONTALdVERTICALcDOWN SINGLE AND RIGHT DOUBLE",
  "2553dDOUBLE AND RIGHT SINGLEcDOUBLE DOWN AND RIGHTcDOWN SINGLE AND LEFT DOUBLE",
  "2556dDOUBLE AND LEFT SINGLEcDOUBLE DOWN AND LEFTcUP SINGLE AND RIGHT DOUBLE",
  "2559dDOUBLE AND RIGHT SINGLEcDOUBLE UP AND RIGHTcUP SINGLE AND LEFT DOUBLE",
  "255CdDOUBLE AND LEFT SINGLEcDOUBLE UP AND LEFTcVERTICAL SINGLE AND RIGHT DOUBLE",
  "255FdDOUBLE AND RIGHT SINGLEcDOUBLE VERTICAL AND RIGHTcVERTICAL SINGLE AND LEFT DOUBLE",
  "2562dDOUBLE AND LEFT SINGLEcDOUBLE VERTICAL AND LEFTcDOWN SINGLE AND HORIZONTAL DOUBLE",
  "2565dDOUBLE AND HORIZONTAL SINGLEcDOUBLE DOWN AND HORIZONTALcUP SINGLE AND HORIZONTAL DOUBLE",
  "2568dDOUBLE AND HORIZONTAL SINGLEcDOUBLE UP AND HORIZONTAL",
  "256AcVERTICAL SINGLE AND HORIZONTAL DOUBLEdDOUBLE AND HORIZONTAL SINGLE",
  "256CcDOUBLE VERTICAL AND HORIZONTALcLIGHT ARC DOWN AND RIGHTgLEFTeUP AND LEFTgRIGHT",
  "2571dDIAGONAL UPPER RIGHT TO LOWER LEFTfLEFT TO LOWER RIGHTeCROSSdLEFTdUPdRIGHTdDOWN",
  "2578cHEAVY LEFTdUPdRIGHTdDOWNcLIGHT LEFT AND HEAVY RIGHTdUP AND HEAVY DOWN",
  "257EcHEAVY LEFT AND LIGHT RIGHTdUP AND LIGHT DOWNaUPPER HALF BLOCKaLOWER ONE EIGHTH BLOCK",
  "2582cQUARTER BLOCKbTHREE EIGHTHS BLOCKbHALF BLOCKbFIVE EIGHTHS BLOCKbTHREE QUARTERS BLOCK",
  "2587bSEVEN EIGHTHS BLOCKaFULL BLOCKaLEFT SEVEN EIGHTHS BLOCKbTHREE QUARTERS BLOCK",
  "258BbFIVE EIGHTHS BLOCKbHALF BLOCKbTHREE EIGHTHS BLOCKbONE QUARTER BLOCKcEIGHTH BLOCK",
  "2590aRIGHT HALF BLOCKaLIGHT SHADEaMEDIUM SHADEaDARK SHADEaUPPER ONE EIGHTH BLOCK",
  "2595aRIGHT ONE EIGHTH BLOCKaQUADRANT LOWER LEFTcRIGHTbUPPER LEFT",
  "2599dAND LOWER LEFT AND LOWER RIGHTfRIGHTeUPPER RIGHT AND LOWER LEFTiRIGHTcRIGHT",
  "259EdAND LOWER LEFTgAND LOWER RIGHTaBLACK SQUAREaWHITE SQUAREcWITH ROUNDED CORNERS",
  "25A3cCONTAINING BLACK SMALL SQUAREaSQUARE WITH HORIZONTAL FILLcVERTICAL FILL",
  "25A6cORTHOGONAL CROSSHATCH FILLcUPPER LEFT TO LOWER RIGHT FILLdRIGHT TO LOWER LEFT FILL",
  "25A9cDIAGONAL CROSSHATCH FILLaBLACK SMALL SQUAREaWHITE SMALL SQUAREaBLACK RECTANGLE",
  "25ADaWHITE RECTANGLEaBLACK VERTICAL RECTANGLEaWHITE VERTICAL RECTANGLEaBLACK PARALLELOGRAM",
  "25B1aWHITE PARALLELOGRAMaBLACK UP-POINTING TRIANGLEaWHITE UP-POINTING TRIANGLE",
  "25B4aBLACK UP-POINTING SMALL TRIANGLEaWHITE UP-POINTING SMALL TRIANGLE",
  "25B6aBLACK RIGHT-POINTING TRIANGLEaWHITE RIGHT-POINTING TRIANGLE",
  "25B8aBLACK RIGHT-POINTING SMALL TRIANGLEaWHITE RIGHT-POINTING SMALL TRIANGLE",
  "25BAaBLACK RIGHT-POINTING POINTERaWHITE RIGHT-POINTING POINTERaBLACK DOWN-POINTING TRIANGLE",
  "25BDaWHITE DOWN-POINTING TRIANGLEaBLACK DOWN-POINTING SMALL TRIANGLE",
  "25BFaWHITE DOWN-POINTING SMALL TRIANGLEaBLACK LEFT-POINTING TRIANGLE",
  "25C1aWHITE LEFT-POINTING TRIANGLEaBLACK LEFT-POINTING SMALL TRIANGLE",
  "25C3aWHITE LEFT-POINTING SMALL TRIANGLEaBLACK LEFT-POINTING POINTER",
  "25C5aWHITE LEFT-POINTING POINTERaBLACK DIAMONDaWHITE DIAMONDcCONTAINING BLACK SMALL DIAMOND",
  "25C9aFISHEYEaLOZENGEaWHITE CIRCLEaDOTTED CIRCLEaCIRCLE WITH VERTICAL FILLaBULLSEYE",
  "25CFaBLACK CIRCLEaCIRCLE WITH LEFT HALF BLACKcRIGHT HALF BLACKcLOWER HALF BLACK",
  "25D3cUPPER HALF BLACKdRIGHT QUADRANT BLACKcALL BUT UPPER LEFT QUADRANT BLACK",
  "25D6aLEFT HALF BLACK CIRCLEaRIGHT HALF BLACK CIRCLEaINVERSE BULLETbWHITE CIRCLE",
  "25DAaUPPER HALF INVERSE WHITE CIRCLEaLOWER HALF INVERSE WHITE CIRCLE",
  "25DCaUPPER LEFT QUADRANT CIRCULAR ARCbRIGHT QUADRANT CIRCULAR ARC",
  "25DEaLOWER RIGHT QUADRANT CIRCULAR ARCbLEFT QUADRANT CIRCULAR ARCaUPPER HALF CIRCLE",
  "25E1aLOWER HALF CIRCLEaBLACK LOWER RIGHT TRIANGLEcLEFT TRIANGLEbUPPER LEFT TRIANGLE",
  "25E5cRIGHT TRIANGLEaWHITE BULLETaSQUARE WITH LEFT HALF BLACKcRIGHT HALF BLACK",
  "25E9cUPPER LEFT DIAGONAL HALF BLACKcLOWER RIGHT DIAGONAL HALF BLACK",
  "25EBaWHITE SQUARE WITH VERTICAL BISECTING LINEbUP-POINTING TRIANGLE WITH DOT",
  "25EDaUP-POINTING TRIANGLE WITH LEFT HALF BLACKdRIGHT HALF BLACKaLARGE CIRCLE",
  "25F0aWHITE SQUARE WITH UPPER LEFT QUADRANTdLOWER LEFT QUADRANTeRIGHT QUADRANT",
  "25F3dUPPER RIGHT QUADRANTbCIRCLE WITH UPPER LEFT QUADRANTdLOWER LEFT QUADRANTeRIGHT QUADRANT",
  "25F7dUPPER RIGHT QUADRANTaUPPER LEFT TRIANGLEbRIGHT TRIANGLEaLOWER LEFT TRIANGLE",
  "25FBaWHITE MEDIUM SQUAREaBLACK MEDIUM SQUAREaWHITE MEDIUM SMALL SQUARE",
  "25FEaBLACK MEDIUM SMALL SQUAREaLOWER RIGHT TRIANGLEaBLACK SUN WITH RAYSaCLOUDaUMBRELLA",
  "2603aSNOWMANaCOMETaBLACK STARaWHITE STARaLIGHTNINGaTHUNDERSTORMaSUNaASCENDING NODE",
  "260BaDESCENDING NODEaCONJUNCTIONaOPPOSITIONaBLACK TELEPHONEaWHITE TELEPHONEaBALLOT BOX",
  "2611cWITH CHECKdXaSALTIREaUMBRELLA WITH RAIN DROPSaHOT BEVERAGEaWHITE SHOGI PIECE",
  "2617aBLACK SHOGI PIECEaSHAMROCKaREVERSED ROTATED FLORAL HEART BULLET",
  "261AaBLACK LEFT POINTING INDEXbRIGHT POINTING INDEXaWHITE LEFT POINTING INDEX",
  "261DbUP POINTING INDEXbRIGHT POINTING INDEXbDOWN POINTING INDEXaSKULL AND CROSSBONES",
  "2621aCAUTION SIGNaRADIOACTIVE SIGNaBIOHAZARD SIGNaCADUCEUSaANKHaORTHODOX CROSSaCHI RHO",
  "2628aCROSS OF LORRAINEcJERUSALEMaSTAR AND CRESCENTaFARSI SYMBOLaADI SHAKTIaHAMMER AND SICKLE",
  "262EaPEACE SYMBOLaYIN YANGaTRIGRAM FOR HEAVENcLAKEcFIREcTHUNDERcWINDcWATERcMOUNTAINcEARTH",
  "2638aWHEEL OF DHARMAaWHITE FROWNING FACEbSMILING FACEaBLACK SMILING FACEaWHITE SUN WITH RAYS",
  "263DaFIRST QUARTER MOONaLAST QUARTER MOONaMERCURYaFEMALE SIGNaEARTHaMALE SIGNaJUPITERaSATURN",
  "2645aURANUSaNEPTUNEaPLUTOaARIESaTAURUSaGEMINIaCANCERaLEOaVIRGOaLIBRAaSCORPIUSaSAGITTARIUS",
  "2651aCAPRICORNaAQUARIUSaPISCESaWHITE CHESS KINGcQUEENcROOKcBISHOPcKNIGHTcPAWN",
  "265AaBLACK CHESS KINGcQUEENcROOKcBISHOPcKNIGHTcPAWNbSPADE SUITaWHITE HEART SUITbDIAMOND SUIT",
  "2663aBLACK CLUB SUITaWHITE SPADE SUITaBLACK HEART SUITbDIAMOND SUITaWHITE CLUB SUIT",
  "2668aHOT SPRINGSaQUARTER NOTEaEIGHTH NOTEaBEAMED EIGHTH NOTESbSIXTEENTH NOTES",
  "266DaMUSIC FLAT SIGNbNATURAL SIGNbSHARP SIGNaWEST SYRIAC CROSSaEAST SYRIAC CROSS",
  "2672aUNIVERSAL RECYCLING SYMBOLaRECYCLING SYMBOL FOR TYPE-1 PLASTICSdTYPE-2 PLASTICS",
  "2675dTYPE-3 PLASTICSdTYPE-4 PLASTICSdTYPE-5 PLASTICSdTYPE-6 PLASTICSdTYPE-7 PLASTICS",
  "267AdGENERIC MATERIALSaBLACK UNIVERSAL RECYCLING SYMBOLaRECYCLED PAPER SYMBOL",
  "267DaPARTIALLY-RECYCLED PAPER SYMBOLaPERMANENT PAPER SIGNaWHEELCHAIR SYMBOLaDIE FACE-1",
  "2681bFACE-2bFACE-3bFACE-4bFACE-5bFACE-6aWHITE CIRCLE WITH DOT RIGHTdTWO DOTS",
  "2688aBLACK CIRCLE WITH WHITE DOT RIGHTdTWO WHITE DOTSaMONOGRAM FOR YANGcYIN",
  "268CaDIGRAM FOR GREATER YANGcLESSER YINdYANGcGREATER YINaWHITE FLAGaBLACK FLAG",
  "2692aHAMMER AND PICKaANCHORaCROSSED SWORDSaSTAFF OF AESCULAPIUSaSCALESaALEMBICaFLOWERaGEAR",
  "269AaSTAFF OF HERMESaATOM SYMBOLaFLEUR-DE-LISaOUTLINED WHITE STAR",
  "269EaTHREE LINES CONVERGING RIGHTdLEFTaWARNING SIGNaHIGH VOLTAGE SIGNaDOUBLED FEMALE SIGN",
  "26A3bMALE SIGNaINTERLOCKED FEMALE AND MALE SIGNaMALE AND FEMALE SIGNbWITH STROKE SIGN",
  "26A7dAND MALE AND FEMALE SIGNaVERTICAL MALE WITH STROKE SIGN",
  "26A9aHORIZONTAL MALE WITH STROKE SIGNaMEDIUM WHITE CIRCLEbBLACK CIRCLEbSMALL WHITE CIRCLE",
  "26ADaMARRIAGE SYMBOLaDIVORCE SYMBOLaUNMARRIED PARTNERSHIP SYMBOLaCOFFINaFUNERAL URNaNEUTER",
  "26B3aCERESaPALLASaJUNOaVESTAaCHIRONaBLACK MOON LILITHaSEXTILEaSEMISEXTILEaQUINCUNX",
  "26BCaSESQUIQUADRATEaSOCCER BALLaBASEBALLaSQUARED KEYaWHITE DRAUGHTS MANcKING",
  "26C2aBLACK DRAUGHTS MANcKINGaSNOWMAN WITHOUT SNOWaSUN BEHIND CLOUDaRAINaBLACK SNOWMAN",
  "26C8aTHUNDER CLOUD AND RAINaTURNED WHITE SHOGI PIECEbBLACK SHOGI PIECE",
  "26CBaWHITE DIAMOND IN SQUAREaCROSSING LANESaDISABLED CARaOPHIUCHUSaPICKaCAR SLIDING",
  "26D1aHELMET WITH WHITE CROSSaCIRCLED CROSSING LANESaCHAINSaNO ENTRY",
  "26D5aALTERNATE ONE-WAY LEFT WAY TRAFFICaBLACK TWO-WAY LEFT WAY TRAFFIC",
  "26D7aWHITE TWO-WAY LEFT WAY TRAFFICaBLACK LEFT LANE MERGEaWHITE LEFT LANE MERGE",
  "26DAaDRIVE SLOW SIGNaHEAVY WHITE DOWN-POINTING TRIANGLEaLEFT CLOSED ENTRYaSQUARED SALTIRE",
  "26DEaFALLING DIAGONAL IN WHITE CIRCLE IN BLACK SQUAREaBLACK TRUCKaRESTRICTED LEFT ENTRY-1",
  "26E1cENTRY-2aASTRONOMICAL SYMBOL FOR URANUSaHEAVY CIRCLE WITH STROKE AND TWO DOTS ABOVE",
  "26E4aPENTAGRAMaRIGHT-HANDED INTERLACED PENTAGRAMaLEFT-HANDED INTERLACED PENTAGRAM",
  "26E7aINVERTED PENTAGRAMaBLACK CROSS ON SHIELDaSHINTO SHRINEaCHURCHaCASTLEaHISTORIC SITE",
  "26EDaGEAR WITHOUT HUBbWITH HANDLESaMAP SYMBOL FOR LIGHTHOUSEaMOUNTAINaUMBRELLA ON GROUND",
  "26F2aFOUNTAINaFLAG IN HOLEaFERRYaSAILBOATaSQUARE FOUR CORNERSaSKIERaICE SKATE",
  "26F9aPERSON WITH BALLaTENTaJAPANESE BANK SYMBOLaHEADSTONE GRAVEYARD SYMBOLaFUEL PUMP",
  "26FEaCUP ON BLACK SQUAREaWHITE FLAG WITH HORIZONTAL MIDDLE BLACK STRIPE",
  "2700aBLACK SAFETY SCISSORSaUPPER BLADE SCISSORSaBLACK SCISSORSaLOWER BLADE SCISSORS",
  "2704aWHITE SCISSORSbHEAVY CHECK MARKaTELEPHONE LOCATION SIGNaTAPE DRIVEaAIRPLANEaENVELOPE",
  "270AaRAISED FISTbHANDaVICTORY HANDaWRITING HANDaLOWER RIGHT PENCILaPENCILaUPPER RIGHT PENCIL",
  "2711aWHITE NIBaBLACK NIBaCHECK MARKaHEAVY CHECK MARKaMULTIPLICATION XaHEAVY MULTIPLICATION X",
  "2717aBALLOT XaHEAVY BALLOT XaOUTLINED GREEK CROSSaHEAVY GREEK CROSSaOPEN CENTRE CROSS",
  "271CaHEAVY OPEN CENTRE CROSSaLATIN CROSSaSHADOWED WHITE LATIN CROSSaOUTLINED LATIN CROSS",
  "2720aMALTESE CROSSaSTAR OF DAVIDaFOUR TEARDROP-SPOKED ASTERISKbBALLOON-SPOKED ASTERISK",
  "2724aHEAVY FOUR BALLOON-SPOKED ASTERISKaFOUR CLUB-SPOKED ASTERISKaBLACK FOUR POINTED STAR",
  "2727aWHITE FOUR POINTED STARaSPARKLESaSTRESS OUTLINED WHITE STARaCIRCLED WHITE STAR",
  "272BaOPEN CENTRE BLACK STARaBLACK CENTRE WHITE STARaOUTLINED BLACK STAR",
  "272EaHEAVY OUTLINED BLACK STARaPINWHEEL STARaSHADOWED WHITE STARaHEAVY ASTERISK",
  "2732aOPEN CENTRE ASTERISKaEIGHT SPOKED ASTERISKbPOINTED BLACK STARcPINWHEEL STAR",
  "2736aSIX POINTED BLACK STARaEIGHT POINTED RECTILINEAR BLACK STAR",
  "2738aHEAVY EIGHT POINTED RECTILINEAR BLACK STARaTWELVE POINTED BLACK STAR",
  "273AaSIXTEEN POINTED ASTERISKaTEARDROP-SPOKED ASTERISKaOPEN CENTRE TEARDROP-SPOKED ASTERISK",
  "273DaHEAVY TEARDROP-SPOKED ASTERISKaSIX PETALLED BLACK AND WHITE FLORETTEaBLACK FLORETTE",
  "2740aWHITE FLORETTEaEIGHT PETALLED OUTLINED BLACK FLORETTE",
  "2742aCIRCLED OPEN CENTRE EIGHT POINTED STARaHEAVY TEARDROP-SPOKED PINWHEEL ASTERISK",
  "2744aSNOWFLAKEaTIGHT TRIFOLIATE SNOWFLAKEaHEAVY CHEVRON SNOWFLAKEaSPARKLEaHEAVY SPARKLE",
  "2749aBALLOON-SPOKED ASTERISKaEIGHT TEARDROP-SPOKED PROPELLER ASTERISK",
  "274BaHEAVY EIGHT TEARDROP-SPOKED PROPELLER ASTERISKaCROSS MARKaSHADOWED WHITE CIRCLE",
  "274EaNEGATIVE SQUARED CROSS MARKaLOWER RIGHT DROP-SHADOWED WHITE SQUARE",
  "2750aUPPER RIGHT DROP-SHADOWED WHITE SQUAREaLOWER RIGHT SHADOWED WHITE SQUARE",
  "2752aUPPER RIGHT SHADOWED WHITE SQUAREaBLACK QUESTION MARK ORNAMENT",
  "2754aWHITE QUESTION MARK ORNAMENTbEXCLAMATION MARK ORNAMENTaBLACK DIAMOND MINUS WHITE X",
  "2757aHEAVY EXCLAMATION MARK SYMBOLaLIGHT VERTICAL BARaMEDIUM VERTICAL BARaHEAVY VERTICAL BAR",
  "275BbSINGLE TURNED COMMA QUOTATION MARK ORNAMENTcCOMMA QUOTATION MARK ORNAMENT",
  "275DbDOUBLE TURNED COMMA QUOTATION MARK ORNAMENTcCOMMA QUOTATION MARK ORNAMENT",
  "275FbLOW SINGLE COMMA QUOTATION MARK ORNAMENTcDOUBLE COMMA QUOTATION MARK ORNAMENT",
  "2761aCURVED STEM PARAGRAPH SIGN ORNAMENTaHEAVY EXCLAMATION MARK ORNAMENT",
  "2763bHEART EXCLAMATION MARK ORNAMENTbBLACK HEARTaROTATED HEAVY BLACK HEART BULLET",
  "2766aFLORAL HEARTaROTATED FLORAL HEART BULLETaMEDIUM LEFT PARENTHESIS ORNAMENT",
  "2769bRIGHT PARENTHESIS ORNAMENTbFLATTENED LEFT PARENTHESIS ORNAMENT",
  "276BcRIGHT PARENTHESIS ORNAMENTbLEFT-POINTING ANGLE BRACKET ORNAMENT",
  "276DbRIGHT-POINTING ANGLE BRACKET ORNAMENTaHEAVY LEFT-POINTING ANGLE QUOTATION MARK ORNAMENT",
  "276FbRIGHT-POINTING ANGLE QUOTATION MARK ORNAMENTbLEFT-POINTING ANGLE BRACKET ORNAMENT",
  "2771bRIGHT-POINTING ANGLE BRACKET ORNAMENTaLIGHT LEFT TORTOISE SHELL BRACKET ORNAMENT",
  "2773bRIGHT TORTOISE SHELL BRACKET ORNAMENTaMEDIUM LEFT CURLY BRACKET ORNAMENT",
  "2775bRIGHT CURLY BRACKET ORNAMENTaDINGBAT NEGATIVE CIRCLED DIGIT ONEeTWOeTHREEeFOUReFIVEeSIX",
  "277CeSEVENeEIGHTeNINEdNUMBER TENbCIRCLED SANS-SERIF DIGIT ONEeTWOeTHREEeFOUReFIVEeSIXeSEVEN",
  "2787eEIGHTeNINEdNUMBER TENbNEGATIVE CIRCLED SANS-SERIF DIGIT ONEfTWOfTHREEfFOURfFIVEfSIX",
  "2790fSEVENfEIGHTfNINEeNUMBER TENaHEAVY WIDE-HEADED RIGHTWARDS ARROWbPLUS SIGNbMINUS SIGN",
  "2797bDIVISION SIGNbSOUTH EAST ARROWbRIGHTWARDS ARROWbNORTH EAST ARROW",
  "279BaDRAFTING POINT RIGHTWARDS ARROWaHEAVY ROUND-TIPPED RIGHTWARDS ARROW",
  "279DaTRIANGLE-HEADED RIGHTWARDS ARROWaHEAVY TRIANGLE-HEADED RIGHTWARDS ARROW",
  "279FaDASHED TRIANGLE-HEADED RIGHTWARDS ARROWaHEAVY DASHED TRIANGLE-HEADED RIGHTWARDS ARROW",
  "27A1aBLACK RIGHTWARDS ARROWaTHREE-D TOP-LIGHTED RIGHTWARDS ARROWHEAD",
  "27A3bBOTTOM-LIGHTED RIGHTWARDS ARROWHEADaBLACK RIGHTWARDS ARROWHEAD",
  "27A5aHEAVY BLACK CURVED DOWNWARDS AND RIGHTWARDS ARROWdUPWARDS AND RIGHTWARDS ARROW",
  "27A7aSQUAT BLACK RIGHTWARDS ARROWaHEAVY CONCAVE-POINTED BLACK RIGHTWARDS ARROW",
  "27A9aRIGHT-SHADED WHITE RIGHTWARDS ARROWaLEFT-SHADED WHITE RIGHTWARDS ARROW",
  "27ABaBACK-TILTED SHADOWED WHITE RIGHTWARDS ARROW",
  "27ACaFRONT-TILTED SHADOWED WHITE RIGHTWARDS ARROW",
  "27ADaHEAVY LOWER RIGHT-SHADOWED WHITE RIGHTWARDS ARROW",
  "27AEbUPPER RIGHT-SHADOWED WHITE RIGHTWARDS ARROW",
  "27AFaNOTCHED LOWER RIGHT-SHADOWED WHITE RIGHTWARDS ARROWaCURLY LOOP",
  "27B1aNOTCHED UPPER RIGHT-SHADOWED WHITE RIGHTWARDS ARROW",
  "27B2aCIRCLED HEAVY WHITE RIGHTWARDS ARROWaWHITE-FEATHERED RIGHTWARDS ARROW",
  "27B4aBLACK-FEATHERED SOUTH EAST ARROWbRIGHTWARDS ARROWbNORTH EAST ARROW",
  "27B7aHEAVY BLACK-FEATHERED SOUTH EAST ARROWcRIGHTWARDS ARROWcNORTH EAST ARROW",
  "27BAaTEARDROP-BARBED RIGHTWARDS ARROWaHEAVY TEARDROP-SHANKED RIGHTWARDS ARROW",
  "27BCaWEDGE-TAILED RIGHTWARDS ARROWaHEAVY WEDGE-TAILED RIGHTWARDS ARROW",
  "27BEaOPEN-OUTLINED RIGHTWARDS ARROWaDOUBLE CURLY LOOPaTHREE DIMENSIONAL ANGLE",
  "27C1aWHITE TRIANGLE CONTAINING SMALL WHITE TRIANGLEaPERPENDICULARaOPEN SUBSETbSUPERSET",
  "27C5aLEFT S-SHAPED BAG DELIMITERaRIGHT S-SHAPED BAG DELIMITERaOR WITH DOT INSIDE",
  "27C8aREVERSE SOLIDUS PRECEDING SUBSETaSUPERSET PRECEDING SOLIDUS",
  "27CAaVERTICAL BAR WITH HORIZONTAL STROKEaMATHEMATICAL RISING DIAGONALaLONG DIVISION",
  "27CDaMATHEMATICAL FALLING DIAGONALaSQUARED LOGICAL ANDcORaWHITE DIAMOND WITH CENTRED DOT",
  "27D1aAND WITH DOTaELEMENT OF OPENING UPWARDSaLOWER RIGHT CORNER WITH DOT",
  "27D4aUPPER LEFT CORNER WITH DOTaLEFT OUTER JOINaRIGHT OUTER JOINaFULL OUTER JOIN",
  "27D8aLARGE UP TACKbDOWN TACKaLEFT AND RIGHT DOUBLE TURNSTILEdTACKbMULTIMAPaLONG RIGHT TACK",
  "27DEbLEFT TACKaUP TACK WITH CIRCLE ABOVEaLOZENGE DIVIDED BY HORIZONTAL RULE",
  "27E1aWHITE CONCAVE-SIDED DIAMONDdWITH LEFTWARDS TICKeRIGHTWARDS TICK",
  "27E4bSQUARE WITH LEFTWARDS TICKdRIGHTWARDS TICKaMATHEMATICAL LEFT WHITE SQUARE BRACKET",
  "27E7bRIGHT WHITE SQUARE BRACKETbLEFT ANGLE BRACKETbRIGHT ANGLE BRACKET",
  "27EAbLEFT DOUBLE ANGLE BRACKETbRIGHT DOUBLE ANGLE BRACKETbLEFT WHITE TORTOISE SHELL BRACKET",
  "27EDbRIGHT WHITE TORTOISE SHELL BRACKETbLEFT FLATTENED PARENTHESIS",
  "27EFbRIGHT FLATTENED PARENTHESISaUPWARDS QUADRUPLE ARROWaDOWNWARDS QUADRUPLE ARROW",
  "27F2aANTICLOCKWISE GAPPED CIRCLE ARROWaCLOCKWISE GAPPED CIRCLE ARROW",
  "27F4aRIGHT ARROW WITH CIRCLED PLUSaLONG LEFTWARDS ARROWbRIGHTWARDS ARROWbLEFT RIGHT ARROW",
  "27F8bLEFTWARDS DOUBLE ARROWbRIGHTWARDS DOUBLE ARROWbLEFT RIGHT DOUBLE ARROW",
  "27FBbLEFTWARDS ARROW FROM BARbRIGHTWARDS ARROW FROM BARbLEFTWARDS DOUBLE ARROW FROM BAR",
  "27FEbRIGHTWARDS DOUBLE ARROW FROM BARcSQUIGGLE ARROWaBRAILLE PATTERN BLANKcDOTS-1cDOTS-2",
  "2803cDOTS-12cDOTS-3cDOTS-13cDOTS-23cDOTS-123cDOTS-4cDOTS-14cDOTS-24cDOTS-124cDOTS-34",
  "280DcDOTS-134cDOTS-234cDOTS-1234cDOTS-5cDOTS-15cDOTS-25cDOTS-125cDOTS-35cDOTS-135cDOTS-235",
  "2817cDOTS-1235cDOTS-45cDOTS-145cDOTS-245cDOTS-1245cDOTS-345cDOTS-1345cDOTS-2345cDOTS-12345",
  "2820cDOTS-6cDOTS-16cDOTS-26cDOTS-126cDOTS-36cDOTS-136cDOTS-236cDOTS-1236cDOTS-46cDOTS-146",
  "282AcDOTS-246cDOTS-1246cDOTS-346cDOTS-1346cDOTS-2346cDOTS-12346cDOTS-56cDOTS-156cDOTS-256",
  "2833cDOTS-1256cDOTS-356cDOTS-1356cDOTS-2356cDOTS-12356cDOTS-456cDOTS-1456cDOTS-2456",
  "283BcDOTS-12456cDOTS-3456cDOTS-13456cDOTS-23456cDOTS-123456cDOTS-7cDOTS-17cDOTS-27cDOTS-127",
  "2844cDOTS-37cDOTS-137cDOTS-237cDOTS-1237cDOTS-47cDOTS-147cDOTS-247cDOTS-1247cDOTS-347",
  "284DcDOTS-1347cDOTS-2347cDOTS-12347cDOTS-57cDOTS-157cDOTS-257cDOTS-1257cDOTS-357cDOTS-1357",
  "2856cDOTS-2357cDOTS-12357cDOTS-457cDOTS-1457cDOTS-2457cDOTS-12457cDOTS-3457cDOTS-13457",
  "285EcDOTS-23457cDOTS-123457cDOTS-67cDOTS-167cDOTS-267cDOTS-1267cDOTS-367cDOTS-1367cDOTS-2367",
  "2867cDOTS-12367cDOTS-467cDOTS-1467cDOTS-2467cDOTS-12467cDOTS-3467cDOTS-13467cDOTS-23467",
  "286FcDOTS-123467cDOTS-567cDOTS-1567cDOTS-2567cDOTS-12567cDOTS-3567cDOTS-13567cDOTS-23567",
  "2877cDOTS-123567cDOTS-4567cDOTS-14567cDOTS-24567cDOTS-124567cDOTS-34567cDOTS-134567",
  "287EcDOTS-234567cDOTS-1234567cDOTS-8cDOTS-18cDOTS-28cDOTS-128cDOTS-38cDOTS-138cDOTS-238",
  "2887cDOTS-1238cDOTS-48cDOTS-148cDOTS-248cDOTS-1248cDOTS-348cDOTS-1348cDOTS-2348cDOTS-12348",
  "2890cDOTS-58cDOTS-158cDOTS-258cDOTS-1258cDOTS-358cDOTS-1358cDOTS-2358cDOTS-12358cDOTS-458",
  "2899cDOTS-1458cDOTS-2458cDOTS-12458cDOTS-3458cDOTS-13458cDOTS-23458cDOTS-123458cDOTS-68",
  "28A1cDOTS-168cDOTS-268cDOTS-1268cDOTS-368cDOTS-1368cDOTS-2368cDOTS-12368cDOTS-468cDOTS-1468",
  "28AAcDOTS-2468cDOTS-12468cDOTS-3468cDOTS-13468cDOTS-23468cDOTS-123468cDOTS-568cDOTS-1568",
  "28B2cDOTS-2568cDOTS-12568cDOTS-3568cDOTS-13568cDOTS-23568cDOTS-123568cDOTS-4568cDOTS-14568",
  "28BAcDOTS-24568cDOTS-124568cDOTS-34568cDOTS-134568cDOTS-234568cDOTS-1234568cDOTS-78cDOTS-178",
  "28C2cDOTS-278cDOTS-1278cDOTS-378cDOTS-1378cDOTS-2378cDOTS-12378cDOTS-478cDOTS-1478cDOTS-2478",
  "28CBcDOTS-12478cDOTS-3478cDOTS-13478cDOTS-23478cDOTS-123478cDOTS-578cDOTS-1578cDOTS-2578",
  "28D3cDOTS-12578cDOTS-3578cDOTS-13578cDOTS-23578cDOTS-123578cDOTS-4578cDOTS-14578cDOTS-24578",
  "28DBcDOTS-124578cDOTS-34578cDOTS-134578cDOTS-234578cDOTS-1234578cDOTS-678cDOTS-1678",
  "28E2cDOTS-2678cDOTS-12678cDOTS-3678cDOTS-13678cDOTS-23678cDOTS-123678cDOTS-4678cDOTS-14678",
  "28EAcDOTS-24678cDOTS-124678cDOTS-34678cDOTS-134678cDOTS-234678cDOTS-1234678cDOTS-5678",
  "28F1cDOTS-15678cDOTS-25678cDOTS-125678cDOTS-35678cDOTS-135678cDOTS-235678cDOTS-1235678",
  "28F8cDOTS-45678cDOTS-145678cDOTS-245678cDOTS-1245678cDOTS-345678cDOTS-1345678cDOTS-2345678",
  "28FFcDOTS-12345678aRIGHTWARDS TWO-HEADED ARROW WITH VERTICAL STROKEeDOUBLE VERTICAL STROKE",
  "2902aLEFTWARDS DOUBLE ARROW WITH VERTICAL STROKE",
  "2903aRIGHTWARDS DOUBLE ARROW WITH VERTICAL STROKE",
  "2904aLEFT RIGHT DOUBLE ARROW WITH VERTICAL STROKEaRIGHTWARDS TWO-HEADED ARROW FROM BAR",
  "2906aLEFTWARDS DOUBLE ARROW FROM BARaRIGHTWARDS DOUBLE ARROW FROM BAR",
  "2908aDOWNWARDS ARROW WITH HORIZONTAL STROKEaUPWARDS ARROW WITH HORIZONTAL STROKE",
  "290AbTRIPLE ARROWaDOWNWARDS TRIPLE ARROWaLEFTWARDS DOUBLE DASH ARROW",
  "290DaRIGHTWARDS DOUBLE DASH ARROWaLEFTWARDS TRIPLE DASH ARROWaRIGHTWARDS TRIPLE DASH ARROW",
  "2910bTWO-HEADED TRIPLE DASH ARROWbARROW WITH DOTTED STEMaUPWARDS ARROW TO BAR",
  "2913aDOWNWARDS ARROW TO BARaRIGHTWARDS ARROW WITH TAIL WITH VERTICAL STROKE",
  "2915fDOUBLE VERTICAL STROKEbTWO-HEADED ARROW WITH TAILfWITH VERTICAL STROKE",
  "2918gDOUBLE VERTICAL STROKEaLEFTWARDS ARROW-TAILaRIGHTWARDS ARROW-TAIL",
  "291BaLEFTWARDS DOUBLE ARROW-TAILaRIGHTWARDS DOUBLE ARROW-TAIL",
  "291DaLEFTWARDS ARROW TO BLACK DIAMONDaRIGHTWARDS ARROW TO BLACK DIAMOND",
  "291FaLEFTWARDS ARROW FROM BAR TO BLACK DIAMONDaRIGHTWARDS ARROW FROM BAR TO BLACK DIAMOND",
  "2921aNORTH WEST AND SOUTH EAST ARROWbEAST AND SOUTH WEST ARROWbWEST ARROW WITH HOOK",
  "2924bEAST ARROW WITH HOOKaSOUTH EAST ARROW WITH HOOKbWEST ARROW WITH HOOK",
  "2927aNORTH WEST ARROW AND NORTH EAST ARROWbEAST ARROW AND SOUTH EAST ARROW",
  "2929aSOUTH EAST ARROW AND SOUTH WEST ARROWbWEST ARROW AND NORTH WEST ARROW",
  "292BaRISING DIAGONAL CROSSING FALLING DIAGONALaFALLING DIAGONAL CROSSING RISING DIAGONAL",
  "292DaSOUTH EAST ARROW CROSSING NORTH EAST ARROWaNORTH EAST ARROW CROSSING SOUTH EAST ARROW",
  "292FaFALLING DIAGONAL CROSSING NORTH EAST ARROWaRISING DIAGONAL CROSSING SOUTH EAST ARROW",
  "2931aNORTH EAST ARROW CROSSING NORTH WEST ARROWbWEST ARROW CROSSING NORTH EAST ARROW",
  "2933aWAVE ARROW POINTING DIRECTLY RIGHTaARROW POINTING RIGHTWARDS THEN CURVING UPWARDS",
  "2935fDOWNWARDScDOWNWARDS THEN CURVING LEFTWARDSfRIGHTWARDSaRIGHT-SIDE ARC CLOCKWISE ARROW",
  "2939aLEFT-SIDE ARC ANTICLOCKWISE ARROWaTOP ARC ANTICLOCKWISE ARROW",
  "293BaBOTTOM ARC ANTICLOCKWISE ARROWaTOP ARC CLOCKWISE ARROW WITH MINUS",
  "293DcANTICLOCKWISE ARROW WITH PLUSaLOWER RIGHT SEMICIRCULAR CLOCKWISE ARROW",
  "293FbLEFT SEMICIRCULAR ANTICLOCKWISE ARROWaANTICLOCKWISE CLOSED CIRCLE ARROW",
  "2941aCLOCKWISE CLOSED CIRCLE ARROWaRIGHTWARDS ARROW ABOVE SHORT LEFTWARDS ARROW",
  "2943aLEFTWARDS ARROW ABOVE SHORT RIGHTWARDS ARROW",
  "2944aSHORT RIGHTWARDS ARROW ABOVE LEFTWARDS ARROWaRIGHTWARDS ARROW WITH PLUS BELOW",
  "2946aLEFTWARDS ARROW WITH PLUS BELOWaRIGHTWARDS ARROW THROUGH X",
  "2948aLEFT RIGHT ARROW THROUGH SMALL CIRCLEaUPWARDS TWO-HEADED ARROW FROM SMALL CIRCLE",
  "294AaLEFT BARB UP RIGHT BARB DOWN HARPOONcDOWN RIGHT BARB UP HARPOON",
  "294CaUP BARB RIGHT DOWN BARB LEFT HARPOONcLEFT DOWN BARB RIGHT HARPOON",
  "294EaLEFT BARB UP RIGHT BARB UP HARPOONaUP BARB RIGHT DOWN BARB RIGHT HARPOON",
  "2950aLEFT BARB DOWN RIGHT BARB DOWN HARPOONaUP BARB LEFT DOWN BARB LEFT HARPOON",
  "2952aLEFTWARDS HARPOON WITH BARB UP TO BARaRIGHTWARDS HARPOON WITH BARB UP TO BAR",
  "2954aUPWARDS HARPOON WITH BARB RIGHT TO BARaDOWNWARDS HARPOON WITH BARB RIGHT TO BAR",
  "2956aLEFTWARDS HARPOON WITH BARB DOWN TO BARaRIGHTWARDS HARPOON WITH BARB DOWN TO BAR",
  "2958aUPWARDS HARPOON WITH BARB LEFT TO BARaDOWNWARDS HARPOON WITH BARB LEFT TO BAR",
  "295AaLEFTWARDS HARPOON WITH BARB UP FROM BARaRIGHTWARDS HARPOON WITH BARB UP FROM BAR",
  "295CaUPWARDS HARPOON WITH BARB RIGHT FROM BARaDOWNWARDS HARPOON WITH BARB RIGHT FROM BAR",
  "295EaLEFTWARDS HARPOON WITH BARB DOWN FROM BARaRIGHTWARDS HARPOON WITH BARB DOWN FROM BAR",
  "2960aUPWARDS HARPOON WITH BARB LEFT FROM BARaDOWNWARDS HARPOON WITH BARB LEFT FROM BAR",
  "2962aLEFTWARDS HARPOON WITH BARB UP ABOVE LEFTWARDS HARPOON WITH BARB DOWN",
  "2963aUPWARDS HARPOON WITH BARB LEFT BESIDE UPWARDS HARPOON WITH BARB RIGHT",
  "2964aRIGHTWARDS HARPOON WITH BARB UP ABOVE RIGHTWARDS HARPOON WITH BARB DOWN",
  "2965aDOWNWARDS HARPOON WITH BARB LEFT BESIDE DOWNWARDS HARPOON WITH BARB RIGHT",
  "2966aLEFTWARDS HARPOON WITH BARB UP ABOVE RIGHTWARDS HARPOON WITH BARB UP",
  "2967eDOWN ABOVE RIGHTWARDS HARPOON WITH BARB DOWN",
  "2968aRIGHTWARDS HARPOON WITH BARB UP ABOVE LEFTWARDS HARPOON WITH BARB UP",
  "2969eDOWN ABOVE LEFTWARDS HARPOON WITH BARB DOWN",
  "296AaLEFTWARDS HARPOON WITH BARB UP ABOVE LONG DASHeDOWN BELOW LONG DASH",
  "296CaRIGHTWARDS HARPOON WITH BARB UP ABOVE LONG DASHeDOWN BELOW LONG DASH",
  "296EaUPWARDS HARPOON WITH BARB LEFT BESIDE DOWNWARDS HARPOON WITH BARB RIGHT",
  "296FaDOWNWARDS HARPOON WITH BARB LEFT BESIDE UPWARDS HARPOON WITH BARB RIGHT",
  "2970aRIGHT DOUBLE ARROW WITH ROUNDED HEADaEQUALS SIGN ABOVE RIGHTWARDS ARROW",
  "2972aTILDE OPERATOR ABOVE RIGHTWARDS ARROWaLEFTWARDS ARROW ABOVE TILDE OPERATOR",
  "2974aRIGHTWARDS ARROW ABOVE TILDE OPERATORdALMOST EQUAL TOaLESS-THAN ABOVE LEFTWARDS ARROW",
  "2977aLEFTWARDS ARROW THROUGH LESS-THANaGREATER-THAN ABOVE RIGHTWARDS ARROW",
  "2979aSUBSET ABOVE RIGHTWARDS ARROWaLEFTWARDS ARROW THROUGH SUBSET",
  "297BaSUPERSET ABOVE LEFTWARDS ARROWaLEFT FISH TAILaRIGHT FISH TAILaUP FISH TAIL",
  "297FaDOWN FISH TAILaTRIPLE VERTICAL BAR DELIMITERaZ NOTATION SPOTcTYPE COLON",
  "2983aLEFT WHITE CURLY BRACKETaRIGHT WHITE CURLY BRACKETaLEFT WHITE PARENTHESIS",
  "2986aRIGHT WHITE PARENTHESISaZ NOTATION LEFT IMAGE BRACKETcRIGHT IMAGE BRACKET",
  "2989cLEFT BINDING BRACKETcRIGHT BINDING BRACKETaLEFT SQUARE BRACKET WITH UNDERBAR",
  "298CaRIGHT SQUARE BRACKET WITH UNDERBARaLEFT SQUARE BRACKET WITH TICK IN TOP CORNER",
  "298EaRIGHT SQUARE BRACKET WITH TICK IN BOTTOM CORNER",
  "298FaLEFT SQUARE BRACKET WITH TICK IN BOTTOM CORNER",
  "2990aRIGHT SQUARE BRACKET WITH TICK IN TOP CORNERaLEFT ANGLE BRACKET WITH DOT",
  "2992aRIGHT ANGLE BRACKET WITH DOTaLEFT ARC LESS-THAN BRACKETaRIGHT ARC GREATER-THAN BRACKET",
  "2995aDOUBLE LEFT ARC GREATER-THAN BRACKETbRIGHT ARC LESS-THAN BRACKET",
  "2997aLEFT BLACK TORTOISE SHELL BRACKETaRIGHT BLACK TORTOISE SHELL BRACKETaDOTTED FENCE",
  "299AaVERTICAL ZIGZAG LINEaMEASURED ANGLE OPENING LEFTaRIGHT ANGLE VARIANT WITH SQUARE",
  "299DaMEASURED RIGHT ANGLE WITH DOTaANGLE WITH S INSIDEaACUTE ANGLE",
  "29A0aSPHERICAL ANGLE OPENING LEFTdUPaTURNED ANGLEaREVERSED ANGLEaANGLE WITH UNDERBAR",
  "29A5aREVERSED ANGLE WITH UNDERBARaOBLIQUE ANGLE OPENING UPdDOWN",
  "29A8aMEASURED ANGLE WITH OPEN ARM ENDING IN ARROW POINTING UP AND RIGHTlLEFTjDOWN AND RIGHT",
  "29ABlLEFTjRIGHT AND UPjLEFT AND UPjRIGHT AND DOWNjLEFT AND DOWNaREVERSED EMPTY SET",
  "29B1aEMPTY SET WITH OVERBARdSMALL CIRCLE ABOVEdRIGHT ARROW ABOVEdLEFT ARROW ABOVE",
  "29B5aCIRCLE WITH HORIZONTAL BARaCIRCLED VERTICAL BARbPARALLELbREVERSE SOLIDUSbPERPENDICULAR",
  "29BAaCIRCLE DIVIDED BY HORIZONTAL BAR AND TOP HALF DIVIDED BY VERTICAL BAR",
  "29BBbWITH SUPERIMPOSED XaCIRCLED ANTICLOCKWISE-ROTATED DIVISION SIGNaUP ARROW THROUGH CIRCLE",
  "29BEaCIRCLED WHITE BULLETbBULLETbLESS-THANbGREATER-THAN",
  "29C2aCIRCLE WITH SMALL CIRCLE TO THE RIGHTcTWO HORIZONTAL STROKES TO THE RIGHT",
  "29C4aSQUARED RISING DIAGONAL SLASHbFALLING DIAGONAL SLASHbASTERISKbSMALL CIRCLEbSQUARE",
  "29C9aTWO JOINED SQUARESaTRIANGLE WITH DOT ABOVEcUNDERBARaS IN TRIANGLE",
  "29CDaTRIANGLE WITH SERIFS AT BOTTOMaRIGHT TRIANGLE ABOVE LEFT TRIANGLE",
  "29CFaLEFT TRIANGLE BESIDE VERTICAL BARaVERTICAL BAR BESIDE RIGHT TRIANGLE",
  "29D1aBOWTIE WITH LEFT HALF BLACKcRIGHT HALF BLACKaBLACK BOWTIEaTIMES WITH LEFT HALF BLACK",
  "29D5cRIGHT HALF BLACKaWHITE HOURGLASSaBLACK HOURGLASSaLEFT WIGGLY FENCEaRIGHT WIGGLY FENCE",
  "29DAaLEFT DOUBLE WIGGLY FENCEaRIGHT DOUBLE WIGGLY FENCEaINCOMPLETE INFINITY",
  "29DDaTIE OVER INFINITYaINFINITY NEGATED WITH VERTICAL BARaDOUBLE-ENDED MULTIMAP",
  "29E0aSQUARE WITH CONTOURED OUTLINEaINCREASES ASaSHUFFLE PRODUCT",
  "29E3aEQUALS SIGN AND SLANTED PARALLELfWITH TILDE ABOVEaIDENTICAL TO AND SLANTED PARALLEL",
  "29E6aGLEICH STARKaTHERMODYNAMICaDOWN-POINTING TRIANGLE WITH LEFT HALF BLACKdRIGHT HALF BLACK",
  "29EAaBLACK DIAMOND WITH DOWN ARROWbLOZENGEaWHITE CIRCLE WITH DOWN ARROW",
  "29EDaBLACK CIRCLE WITH DOWN ARROWaERROR-BARRED WHITE SQUAREbBLACK SQUAREbWHITE DIAMOND",
  "29F1bBLACK DIAMONDbWHITE CIRCLEbBLACK CIRCLEaRULE-DELAYEDaREVERSE SOLIDUS OPERATOR",
  "29F6aSOLIDUS WITH OVERBARaREVERSE SOLIDUS WITH HORIZONTAL STROKEaBIG SOLIDUSbREVERSE SOLIDUS",
  "29FAaDOUBLE PLUSaTRIPLE PLUSaLEFT-POINTING CURVED ANGLE BRACKET",
  "29FDaRIGHT-POINTING CURVED ANGLE BRACKETaTINYaMINYaN-ARY CIRCLED DOT OPERATORcPLUS OPERATOR",
  "2A02cTIMES OPERATORbUNION OPERATOR WITH DOTePLUSbSQUARE INTERSECTION OPERATORcUNION OPERATOR",
  "2A07aTWO LOGICAL AND OPERATORcOR OPERATORaN-ARY TIMES OPERATORaMODULO TWO SUM",
  "2A0BaSUMMATION WITH INTEGRALaQUADRUPLE INTEGRAL OPERATORaFINITE PART INTEGRAL",
  "2A0EaINTEGRAL WITH DOUBLE STROKEbAVERAGE WITH SLASHaCIRCULATION FUNCTION",
  "2A11aANTICLOCKWISE INTEGRATIONaLINE INTEGRATION WITH RECTANGULAR PATH AROUND POLE",
  "2A13dSEMICIRCULAR PATH AROUND POLEcNOT INCLUDING THE POLEaINTEGRAL AROUND A POINT OPERATOR",
  "2A16aQUATERNION INTEGRAL OPERATORaINTEGRAL WITH LEFTWARDS ARROW WITH HOOKcTIMES SIGN",
  "2A19cINTERSECTIONcUNIONcOVERBARcUNDERBARaJOINaLARGE LEFT TRIANGLE OPERATOR",
  "2A1FaZ NOTATION SCHEMA COMPOSITIONdPIPINGdPROJECTIONaPLUS SIGN WITH SMALL CIRCLE ABOVE",
  "2A23dCIRCUMFLEX ACCENT ABOVEdTILDE ABOVEdDOT BELOWdTILDE BELOWdSUBSCRIPT TWOdBLACK TRIANGLE",
  "2A29aMINUS SIGN WITH COMMA ABOVEdDOT BELOWdFALLING DOTSdRISING DOTS",
  "2A2DaPLUS SIGN IN LEFT HALF CIRCLEdRIGHT HALF CIRCLEaVECTOR OR CROSS PRODUCT",
  "2A30aMULTIPLICATION SIGN WITH DOT ABOVEdUNDERBARaSEMIDIRECT PRODUCT WITH BOTTOM CLOSED",
  "2A33aSMASH PRODUCTaMULTIPLICATION SIGN IN LEFT HALF CIRCLEdRIGHT HALF CIRCLE",
  "2A36aCIRCLED MULTIPLICATION SIGN WITH CIRCUMFLEX ACCENTaMULTIPLICATION SIGN IN DOUBLE CIRCLE",
  "2A38aCIRCLED DIVISION SIGNaPLUS SIGN IN TRIANGLEaMINUS SIGN IN TRIANGLE",
  "2A3BaMULTIPLICATION SIGN IN TRIANGLEaINTERIOR PRODUCTaRIGHTHAND INTERIOR PRODUCT",
  "2A3EaZ NOTATION RELATIONAL COMPOSITIONaAMALGAMATION OR COPRODUCTaINTERSECTION WITH DOT",
  "2A41aUNION WITH MINUS SIGNcOVERBARaINTERSECTION WITH OVERBARcLOGICAL AND",
  "2A45aUNION WITH LOGICAL ORbABOVE INTERSECTIONaINTERSECTION ABOVE UNION",
  "2A48aUNION ABOVE BAR ABOVE INTERSECTIONaINTERSECTION ABOVE BAR ABOVE UNION",
  "2A4AaUNION BESIDE AND JOINED WITH UNIONaINTERSECTION BESIDE AND JOINED WITH INTERSECTION",
  "2A4CaCLOSED UNION WITH SERIFSbINTERSECTION WITH SERIFSaDOUBLE SQUARE INTERSECTIONcUNION",
  "2A50aCLOSED UNION WITH SERIFS AND SMASH PRODUCTaLOGICAL AND WITH DOT ABOVEbOR WITH DOT ABOVE",
  "2A53aDOUBLE LOGICAL ANDcORaTWO INTERSECTING LOGICAL ANDdORaSLOPING LARGE ORcAND",
  "2A59aLOGICAL OR OVERLAPPING LOGICAL ANDbAND WITH MIDDLE STEMbOR WITH MIDDLE STEM",
  "2A5CbAND WITH HORIZONTAL DASHbOR WITH HORIZONTAL DASHbAND WITH DOUBLE OVERBARdUNDERBAR",
  "2A60dDOUBLE UNDERBARaSMALL VEE WITH UNDERBARaLOGICAL OR WITH DOUBLE OVERBAReUNDERBAR",
  "2A64aZ NOTATION DOMAIN ANTIRESTRICTIONcRANGE ANTIRESTRICTIONaEQUALS SIGN WITH DOT BELOW",
  "2A67aIDENTICAL WITH DOT ABOVEaTRIPLE HORIZONTAL BAR WITH DOUBLE VERTICAL STROKE",
  "2A69eTRIPLE VERTICAL STROKEaTILDE OPERATOR WITH DOT ABOVEdRISING DOTSaSIMILAR MINUS SIMILAR",
  "2A6DaCONGRUENT WITH DOT ABOVEaEQUALS WITH ASTERISKaALMOST EQUAL TO WITH CIRCUMFLEX ACCENT",
  "2A70aAPPROXIMATELY EQUAL OR EQUAL TOaEQUALS SIGN ABOVE PLUS SIGNaPLUS SIGN ABOVE EQUALS SIGN",
  "2A73aEQUALS SIGN ABOVE TILDE OPERATORaDOUBLE COLON EQUALaTWO CONSECUTIVE EQUALS SIGNS",
  "2A76aTHREE CONSECUTIVE EQUALS SIGNSaEQUALS SIGN WITH TWO DOTS ABOVE AND TWO DOTS BELOW",
  "2A78aEQUIVALENT WITH FOUR DOTS ABOVEaLESS-THAN WITH CIRCLE INSIDE",
  "2A7AaGREATER-THAN WITH CIRCLE INSIDEaLESS-THAN WITH QUESTION MARK ABOVE",
  "2A7CaGREATER-THAN WITH QUESTION MARK ABOVEaLESS-THAN OR SLANTED EQUAL TO",
  "2A7EaGREATER-THAN OR SLANTED EQUAL TOaLESS-THAN OR SLANTED EQUAL TO WITH DOT INSIDE",
  "2A80aGREATER-THAN OR SLANTED EQUAL TO WITH DOT INSIDE",
  "2A81aLESS-THAN OR SLANTED EQUAL TO WITH DOT ABOVE",
  "2A82aGREATER-THAN OR SLANTED EQUAL TO WITH DOT ABOVE",
  "2A83aLESS-THAN OR SLANTED EQUAL TO WITH DOT ABOVE RIGHT",
  "2A84aGREATER-THAN OR SLANTED EQUAL TO WITH DOT ABOVE LEFTaLESS-THAN OR APPROXIMATE",
  "2A86aGREATER-THAN OR APPROXIMATEaLESS-THAN AND SINGLE-LINE NOT EQUAL TO",
  "2A88aGREATER-THAN AND SINGLE-LINE NOT EQUAL TOaLESS-THAN AND NOT APPROXIMATE",
  "2A8AaGREATER-THAN AND NOT APPROXIMATEaLESS-THAN ABOVE DOUBLE-LINE EQUAL ABOVE GREATER-THAN",
  "2A8CaGREATER-THAN ABOVE DOUBLE-LINE EQUAL ABOVE LESS-THANaLESS-THAN ABOVE SIMILAR OR EQUAL",
  "2A8EaGREATER-THAN ABOVE SIMILAR OR EQUALaLESS-THAN ABOVE SIMILAR ABOVE GREATER-THAN",
  "2A90aGREATER-THAN ABOVE SIMILAR ABOVE LESS-THAN",
  "2A91aLESS-THAN ABOVE GREATER-THAN ABOVE DOUBLE-LINE EQUAL",
  "2A92aGREATER-THAN ABOVE LESS-THAN ABOVE DOUBLE-LINE EQUAL",
  "2A93aLESS-THAN ABOVE SLANTED EQUAL ABOVE GREATER-THAN ABOVE SLANTED EQUAL",
  "2A94aGREATER-THAN ABOVE SLANTED EQUAL ABOVE LESS-THAN ABOVE SLANTED EQUAL",
  "2A95aSLANTED EQUAL TO OR LESS-THANeGREATER-THANeLESS-THAN WITH DOT INSIDE",
  "2A98eGREATER-THAN WITH DOT INSIDEaDOUBLE-LINE EQUAL TO OR LESS-THANeGREATER-THAN",
  "2A9BbSLANTED EQUAL TO OR LESS-THANfGREATER-THANaSIMILAR OR LESS-THANcGREATER-THAN",
  "2A9FbABOVE LESS-THAN ABOVE EQUALS SIGNcGREATER-THAN ABOVE EQUALS SIGN",
  "2AA1aDOUBLE NESTED LESS-THANcGREATER-THANcLESS-THAN WITH UNDERBAR",
  "2AA4aGREATER-THAN OVERLAPPING LESS-THANbBESIDE LESS-THANaLESS-THAN CLOSED BY CURVE",
  "2AA7aGREATER-THAN CLOSED BY CURVEaLESS-THAN CLOSED BY CURVE ABOVE SLANTED EQUAL",
  "2AA9aGREATER-THAN CLOSED BY CURVE ABOVE SLANTED EQUALaSMALLER THANaLARGER THAN",
  "2AACaSMALLER THAN OR EQUAL TOaLARGER THAN OR EQUAL TOaEQUALS SIGN WITH BUMPY ABOVE",
  "2AAFaPRECEDES ABOVE SINGLE-LINE EQUALS SIGNaSUCCEEDS ABOVE SINGLE-LINE EQUALS SIGN",
  "2AB1aPRECEDES ABOVE SINGLE-LINE NOT EQUAL TOaSUCCEEDS ABOVE SINGLE-LINE NOT EQUAL TO",
  "2AB3aPRECEDES ABOVE EQUALS SIGNaSUCCEEDS ABOVE EQUALS SIGNaPRECEDES ABOVE NOT EQUAL TO",
  "2AB6aSUCCEEDS ABOVE NOT EQUAL TOaPRECEDES ABOVE ALMOST EQUAL TO",
  "2AB8aSUCCEEDS ABOVE ALMOST EQUAL TOaPRECEDES ABOVE NOT ALMOST EQUAL TO",
  "2ABAaSUCCEEDS ABOVE NOT ALMOST EQUAL TOaDOUBLE PRECEDESbSUCCEEDSaSUBSET WITH DOT",
  "2ABEaSUPERSET WITH DOTaSUBSET WITH PLUS SIGN BELOWaSUPERSET WITH PLUS SIGN BELOW",
  "2AC1aSUBSET WITH MULTIPLICATION SIGN BELOWaSUPERSET WITH MULTIPLICATION SIGN BELOW",
  "2AC3aSUBSET OF OR EQUAL TO WITH DOT ABOVEaSUPERSET OF OR EQUAL TO WITH DOT ABOVE",
  "2AC5aSUBSET OF ABOVE EQUALS SIGNaSUPERSET OF ABOVE EQUALS SIGN",
  "2AC7aSUBSET OF ABOVE TILDE OPERATORaSUPERSET OF ABOVE TILDE OPERATOR",
  "2AC9aSUBSET OF ABOVE ALMOST EQUAL TOaSUPERSET OF ABOVE ALMOST EQUAL TO",
  "2ACBaSUBSET OF ABOVE NOT EQUAL TOaSUPERSET OF ABOVE NOT EQUAL TO",
  "2ACDaSQUARE LEFT OPEN BOX OPERATORbRIGHT OPEN BOX OPERATORaCLOSED SUBSETbSUPERSET",
  "2AD1bSUBSET OR EQUAL TObSUPERSET OR EQUAL TOaSUBSET ABOVE SUPERSETaSUPERSET ABOVE SUBSET",
  "2AD5aSUBSET ABOVE SUBSETaSUPERSET ABOVE SUPERSETbBESIDE SUBSET",
  "2AD8cAND JOINED BY DASH WITH SUBSETaELEMENT OF OPENING DOWNWARDSaPITCHFORK WITH TEE TOP",
  "2ADBaTRANSVERSAL INTERSECTIONaFORKINGaNONFORKINGaSHORT LEFT TACKbDOWN TACKbUP TACK",
  "2AE1aPERPENDICULAR WITH SaVERTICAL BAR TRIPLE RIGHT TURNSTILE",
  "2AE3aDOUBLE VERTICAL BAR LEFT TURNSTILEaVERTICAL BAR DOUBLE LEFT TURNSTILE",
  "2AE5aDOUBLE VERTICAL BAR DOUBLE LEFT TURNSTILEaLONG DASH FROM LEFT MEMBER OF DOUBLE VERTICAL",
  "2AE7aSHORT DOWN TACK WITH OVERBARbUP TACK WITH UNDERBARdABOVE SHORT DOWN TACK",
  "2AEAaDOUBLE DOWN TACKbUP TACKbSTROKE NOT SIGNaREVERSED DOUBLE STROKE NOT SIGN",
  "2AEEaDOES NOT DIVIDE WITH REVERSED NEGATION SLASHaVERTICAL LINE WITH CIRCLE ABOVEeBELOW",
  "2AF1aDOWN TACK WITH CIRCLE BELOWaPARALLEL WITH HORIZONTAL STROKEcTILDE OPERATOR",
  "2AF4aTRIPLE VERTICAL BAR BINARY RELATIONdWITH HORIZONTAL STROKEbCOLON OPERATOR",
  "2AF7bNESTED LESS-THANcGREATER-THANaDOUBLE-LINE SLANTED LESS-THAN OR EQUAL TO",
  "2AFAcGREATER-THAN OR EQUAL TOaTRIPLE SOLIDUS BINARY RELATION",
  "2AFCaLARGE TRIPLE VERTICAL BAR OPERATORaDOUBLE SOLIDUS OPERATORaWHITE VERTICAL BAR",
  "2AFFaN-ARY WHITE VERTICAL BARaNORTH EAST WHITE ARROWbWEST WHITE ARROWaSOUTH EAST WHITE ARROW",
  "2B03bWEST WHITE ARROWaLEFT RIGHT WHITE ARROWaLEFTWARDS BLACK ARROWaUPWARDS BLACK ARROW",
  "2B07aDOWNWARDS BLACK ARROWaNORTH EAST BLACK ARROWbWEST BLACK ARROWaSOUTH EAST BLACK ARROW",
  "2B0BbWEST BLACK ARROWaLEFT RIGHT BLACK ARROWaUP DOWN BLACK ARROW",
  "2B0EaRIGHTWARDS ARROW WITH TIP DOWNWARDSeUPWARDSaLEFTWARDS ARROW WITH TIP DOWNWARDSeUPWARDS",
  "2B12aSQUARE WITH TOP HALF BLACKcBOTTOM HALF BLACKcUPPER RIGHT DIAGONAL HALF BLACK",
  "2B15cLOWER LEFT DIAGONAL HALF BLACKaDIAMOND WITH LEFT HALF BLACKcRIGHT HALF BLACK",
  "2B18cTOP HALF BLACKcBOTTOM HALF BLACKaDOTTED SQUAREaBLACK LARGE SQUAREaWHITE LARGE SQUARE",
  "2B1DaBLACK VERY SMALL SQUAREaWHITE VERY SMALL SQUAREaBLACK PENTAGONaWHITE PENTAGONbHEXAGON",
  "2B22aBLACK HEXAGONaHORIZONTAL BLACK HEXAGONaBLACK LARGE CIRCLEbMEDIUM DIAMOND",
  "2B26aWHITE MEDIUM DIAMONDaBLACK MEDIUM LOZENGEaWHITE MEDIUM LOZENGEaBLACK SMALL DIAMOND",
  "2B2AcLOZENGEaWHITE SMALL LOZENGEaBLACK HORIZONTAL ELLIPSEaWHITE HORIZONTAL ELLIPSE",
  "2B2EaBLACK VERTICAL ELLIPSEaWHITE VERTICAL ELLIPSEaLEFT ARROW WITH SMALL CIRCLE",
  "2B31aTHREE LEFTWARDS ARROWSaLEFT ARROW WITH CIRCLED PLUSaLONG LEFTWARDS SQUIGGLE ARROW",
  "2B34aLEFTWARDS TWO-HEADED ARROW WITH VERTICAL STROKEeDOUBLE VERTICAL STROKEdFROM BAR",
  "2B37cTRIPLE DASH ARROWbARROW WITH DOTTED STEMdTAIL WITH VERTICAL STROKE",
  "2B3AfDOUBLE VERTICAL STROKEbTWO-HEADED ARROW WITH TAILfWITH VERTICAL STROKE",
  "2B3DgDOUBLE VERTICAL STROKEbARROW THROUGH XaWAVE ARROW POINTING DIRECTLY LEFT",
  "2B40aEQUALS SIGN ABOVE LEFTWARDS ARROWaREVERSE TILDE OPERATOR ABOVE LEFTWARDS ARROW",
  "2B42aLEFTWARDS ARROW ABOVE REVERSE ALMOST EQUAL TOaRIGHTWARDS ARROW THROUGH GREATER-THAN",
  "2B44dSUPERSETaLEFTWARDS QUADRUPLE ARROWaRIGHTWARDS QUADRUPLE ARROW",
  "2B47aREVERSE TILDE OPERATOR ABOVE RIGHTWARDS ARROW",
  "2B48aRIGHTWARDS ARROW ABOVE REVERSE ALMOST EQUAL TOaTILDE OPERATOR ABOVE LEFTWARDS ARROW",
  "2B4AaLEFTWARDS ARROW ABOVE ALMOST EQUAL TOdREVERSE TILDE OPERATOR",
  "2B4CaRIGHTWARDS ARROW ABOVE REVERSE TILDE OPERATORaDOWNWARDS TRIANGLE-HEADED ZIGZAG ARROW",
  "2B4EaSHORT SLANTED NORTH ARROWbBACKSLANTED SOUTH ARROWaWHITE MEDIUM STARaBLACK SMALL STAR",
  "2B52aWHITE SMALL STARaBLACK RIGHT-POINTING PENTAGONaWHITE RIGHT-POINTING PENTAGON",
  "2B55aHEAVY LARGE CIRCLEbOVAL WITH OVAL INSIDEbCIRCLE WITH CIRCLE INSIDEcbCIRCLED SALTIRE",
  "2B5AaSLANTED NORTH ARROW WITH HOOKED HEADaBACKSLANTED SOUTH ARROW WITH HOOKED TAIL",
  "2B5CaSLANTED NORTH ARROW WITH HORIZONTAL TAILaBACKSLANTED SOUTH ARROW WITH HORIZONTAL TAIL",
  "2B5EaBENT ARROW POINTING DOWNWARDS THEN NORTH EAST",
  "2B5FaSHORT BENT ARROW POINTING DOWNWARDS THEN NORTH EASTaLEFTWARDS TRIANGLE-HEADED ARROW",
  "2B61aUPWARDS TRIANGLE-HEADED ARROWaRIGHTWARDS TRIANGLE-HEADED ARROW",
  "2B63aDOWNWARDS TRIANGLE-HEADED ARROWaLEFT RIGHT TRIANGLE-HEADED ARROW",
  "2B65aUP DOWN TRIANGLE-HEADED ARROWaNORTH WEST TRIANGLE-HEADED ARROW",
  "2B67bEAST TRIANGLE-HEADED ARROWaSOUTH EAST TRIANGLE-HEADED ARROWbWEST TRIANGLE-HEADED ARROW",
  "2B6AaLEFTWARDS TRIANGLE-HEADED DASHED ARROWaUPWARDS TRIANGLE-HEADED DASHED ARROW",
  "2B6CaRIGHTWARDS TRIANGLE-HEADED DASHED ARROWaDOWNWARDS TRIANGLE-HEADED DASHED ARROW",
  "2B6EaCLOCKWISE TRIANGLE-HEADED OPEN CIRCLE ARROW",
  "2B6FaANTICLOCKWISE TRIANGLE-HEADED OPEN CIRCLE ARROWaLEFTWARDS TRIANGLE-HEADED ARROW TO BAR",
  "2B71aUPWARDS TRIANGLE-HEADED ARROW TO BARaRIGHTWARDS TRIANGLE-HEADED ARROW TO BAR",
  "2B73aDOWNWARDS TRIANGLE-HEADED ARROW TO BAR",
  "2B76aNORTH WEST TRIANGLE-HEADED ARROW TO BARbEAST TRIANGLE-HEADED ARROW TO BAR",
  "2B78aSOUTH EAST TRIANGLE-HEADED ARROW TO BARbWEST TRIANGLE-HEADED ARROW TO BAR",
  "2B7AaLEFTWARDS TRIANGLE-HEADED ARROW WITH DOUBLE HORIZONTAL STROKE",
  "2B7BaUPWARDS TRIANGLE-HEADED ARROW WITH DOUBLE HORIZONTAL STROKE",
  "2B7CaRIGHTWARDS TRIANGLE-HEADED ARROW WITH DOUBLE HORIZONTAL STROKE",
  "2B7DaDOWNWARDS TRIANGLE-HEADED ARROW WITH DOUBLE HORIZONTAL STROKEaHORIZONTAL TAB KEY",
  "2B7FaVERTICAL TAB KEYaLEFTWARDS TRIANGLE-HEADED ARROW OVER RIGHTWARDS TRIANGLE-HEADED ARROW",
  "2B81aUPWARDS TRIANGLE-HEADED ARROW LEFTWARDS OF DOWNWARDS TRIANGLE-HEADED ARROW",
  "2B82aRIGHTWARDS TRIANGLE-HEADED ARROW OVER LEFTWARDS TRIANGLE-HEADED ARROW",
  "2B83aDOWNWARDS TRIANGLE-HEADED ARROW LEFTWARDS OF UPWARDS TRIANGLE-HEADED ARROW",
  "2B84aLEFTWARDS TRIANGLE-HEADED PAIRED ARROWSaUPWARDS TRIANGLE-HEADED PAIRED ARROWS",
  "2B86aRIGHTWARDS TRIANGLE-HEADED PAIRED ARROWSaDOWNWARDS TRIANGLE-HEADED PAIRED ARROWS",
  "2B88aLEFTWARDS BLACK CIRCLED WHITE ARROWaUPWARDS BLACK CIRCLED WHITE ARROW",
  "2B8AaRIGHTWARDS BLACK CIRCLED WHITE ARROWaDOWNWARDS BLACK CIRCLED WHITE ARROW",
  "2B8CaANTICLOCKWISE TRIANGLE-HEADED RIGHT U-SHAPED ARROWcBOTTOM U-SHAPED ARROW",
  "2B8EcLEFT U-SHAPED ARROWcTOP U-SHAPED ARROWaRETURN LEFTbRIGHTaNEWLINE LEFTbRIGHT",
  "2B94aFOUR CORNER ARROWS CIRCLING ANTICLOCKWISEaRIGHTWARDS BLACK ARROW",
  "2B97aSYMBOL FOR TYPE A ELECTRONICSaTHREE-D TOP-LIGHTED LEFTWARDS EQUILATERAL ARROWHEAD",
  "2B99bRIGHT-LIGHTED UPWARDS EQUILATERAL ARROWHEAD",
  "2B9AbTOP-LIGHTED RIGHTWARDS EQUILATERAL ARROWHEAD",
  "2B9BbLEFT-LIGHTED DOWNWARDS EQUILATERAL ARROWHEADaBLACK LEFTWARDS EQUILATERAL ARROWHEAD",
  "2B9DbUPWARDS EQUILATERAL ARROWHEADbRIGHTWARDS EQUILATERAL ARROWHEAD",
  "2B9FbDOWNWARDS EQUILATERAL ARROWHEADaDOWNWARDS TRIANGLE-HEADED ARROW WITH LONG TIP LEFTWARDS",
  "2BA1gRIGHTWARDSaUPWARDS TRIANGLE-HEADED ARROW WITH LONG TIP LEFTWARDSgRIGHTWARDS",
  "2BA4aLEFTWARDS TRIANGLE-HEADED ARROW WITH LONG TIP UPWARDS",
  "2BA5aRIGHTWARDS TRIANGLE-HEADED ARROW WITH LONG TIP UPWARDS",
  "2BA6aLEFTWARDS TRIANGLE-HEADED ARROW WITH LONG TIP DOWNWARDS",
  "2BA7aRIGHTWARDS TRIANGLE-HEADED ARROW WITH LONG TIP DOWNWARDS",
  "2BA8aBLACK CURVED DOWNWARDS AND LEFTWARDS ARROWeRIGHTWARDS ARROWcUPWARDS AND LEFTWARDS ARROW",
  "2BABeRIGHTWARDS ARROWcLEFTWARDS AND UPWARDS ARROWcRIGHTWARDS AND UPWARDS ARROW",
  "2BAEcLEFTWARDS AND DOWNWARDS ARROWcRIGHTWARDS AND DOWNWARDS ARROWaRIBBON ARROW DOWN LEFT",
  "2BB1dRIGHTcUP LEFTdRIGHTcLEFT UPcRIGHT UPcLEFT DOWNcRIGHT DOWN",
  "2BB8aUPWARDS WHITE ARROW FROM BAR WITH HORIZONTAL BARaUP ARROWHEAD IN A RECTANGLE BOX",
  "2BBAaOVERLAPPING WHITE SQUAREScAND BLACK SQUARESbBLACK SQUARESaBALLOT BOX WITH LIGHT X",
  "2BBEaCIRCLED XbBOLD XaBLACK SQUARE CENTREDbDIAMOND CENTREDaTURNED BLACK PENTAGON",
  "2BC3aHORIZONTAL BLACK OCTAGONaBLACK OCTAGONbMEDIUM UP-POINTING TRIANGLE CENTRED",
  "2BC6cDOWN-POINTING TRIANGLE CENTREDcLEFT-POINTING TRIANGLE CENTRED",
  "2BC8cRIGHT-POINTING TRIANGLE CENTREDaNEPTUNE FORM TWOaTOP HALF BLACK CIRCLE",
  "2BCBaBOTTOM HALF BLACK CIRCLEaLIGHT FOUR POINTED BLACK CUSP",
  "2BCDaROTATED LIGHT FOUR POINTED BLACK CUSPaWHITE FOUR POINTED CUSP",
  "2BCFaROTATED WHITE FOUR POINTED CUSPaSQUARE POSITION INDICATORaUNCERTAINTY SIGNaGROUP MARK",
  "2BD3aPLUTO FORM TWOcTHREEcFOURcFIVEaTRANSPLUTOaPROSERPINAaASTRAEAaHYGIEAaPHOLUSaNESSUS",
  "2BDDaWHITE MOON SELENAaBLACK DIAMOND ON CROSSaTRUE LIGHT MOON ARTAaCUPIDOaHADESaZEUSaKRONOS",
  "2BE4aAPOLLONaADMETOSaVULCANUSaPOSEIDONaLEFT HALF BLACK STARaRIGHT HALF BLACK STAR",
  "2BEAaSTAR WITH LEFT HALF BLACKcRIGHT HALF BLACK",
  "2BECaLEFTWARDS TWO-HEADED ARROW WITH TRIANGLE ARROWHEADS",
  "2BEDaUPWARDS TWO-HEADED ARROW WITH TRIANGLE ARROWHEADS",
  "2BEEaRIGHTWARDS TWO-HEADED ARROW WITH TRIANGLE ARROWHEADS",
  "2BEFaDOWNWARDS TWO-HEADED ARROW WITH TRIANGLE ARROWHEADSaERIS FORM ONEcTWOaSEDNA",
  "2BF3aRUSSIAN ASTROLOGICAL SYMBOL VIGINTILEdNOVILEdQUINTILEdBINOVILEdSENTAGONdTREDECILE",
  "2BF9aEQUALS SIGN WITH INFINITY BELOWaUNITED SYMBOLaSEPARATED SYMBOLaDOUBLED SYMBOL",
  "2BFDaPASSED SYMBOLaREVERSED RIGHT ANGLEaHELLSCHREIBER PAUSE SYMBOL"]

end Stencil.CodePoint.Name
