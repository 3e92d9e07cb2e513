/-!
# Names of East Asian scripts

The names of the code points from 2C00 to FFFF: the radicals, kana, the scripts of Africa and Asia
that came later, and presentation forms. The rows are read by the lookup of names.

## Main definitions

* `CodePoint.Name.ideographs` — the rows.
-/

namespace Stencil.CodePoint.Name

/-- The names of the code points from 2C00 to FFFF. -/
def ideographs : List String :=
  ["2C00aGLAGOLITIC CAPITAL LETTER AZUdBUKYdVEDEdGLAGOLIdDOBROdYESTUdZHIVETEdDZELOdZEMLJAdIZHE",
  "2C0AdINITIAL IZHEdIdDJERVIdKAKOdLJUDIJEdMYSLITEdNASHIdONUdPOKOJIdRITSIdSLOVOdTVRIDOdUKU",
  "2C17dFRITUdHERUdOTUdPEdSHTAdTSIdCHRIVIdSHAdYERUdYERIdYATIdSPIDERY HAdYUdSMALL YUSfWITH TAIL",
  "2C26dYOdIOTATED SMALL YUSdBIG YUSdIOTATED BIG YUSdFITAdIZHITSAdSHTAPICdTROKUTASTI A",
  "2C2EdLATINATE MYSLITEdCAUDATE CHRIVIbSMALL LETTER AZUdBUKYdVEDEdGLAGOLIdDOBROdYESTUdZHIVETE",
  "2C37dDZELOdZEMLJAdIZHEdINITIAL IZHEdIdDJERVIdKAKOdLJUDIJEdMYSLITEdNASHIdONUdPOKOJIdRITSI",
  "2C44dSLOVOdTVRIDOdUKUdFRITUdHERUdOTUdPEdSHTAdTSIdCHRIVIdSHAdYERUdYERIdYATIdSPIDERY HAdYU",
  "2C54dSMALL YUSfWITH TAILdYOdIOTATED SMALL YUSdBIG YUSdIOTATED BIG YUSdFITAdIZHITSAdSHTAPIC",
  "2C5DdTROKUTASTI AdLATINATE MYSLITEdCAUDATE CHRIVIaLATIN CAPITAL LETTER L WITH DOUBLE BAR",
  "2C61bSMALL LETTER L WITH DOUBLE BARbCAPITAL LETTER L WITH MIDDLE TILDEdP WITH STROKE",
  "2C64dR WITH TAILbSMALL LETTER A WITH STROKEdT WITH DIAGONAL STROKE",
  "2C67bCAPITAL LETTER H WITH DESCENDERbSMALL LETTER H WITH DESCENDER",
  "2C69bCAPITAL LETTER K WITH DESCENDERbSMALL LETTER K WITH DESCENDER",
  "2C6BbCAPITAL LETTER Z WITH DESCENDERbSMALL LETTER Z WITH DESCENDERbCAPITAL LETTER ALPHA",
  "2C6EdM WITH HOOKdTURNED AeALPHAbSMALL LETTER V WITH RIGHT HOOKbCAPITAL LETTER W WITH HOOK",
  "2C73bSMALL LETTER W WITH HOOKdV WITH CURLbCAPITAL LETTER HALF HbSMALL LETTER HALF H",
  "2C77dTAILLESS PHIdE WITH NOTCHdTURNED R WITH TAILdO WITH LOW RING INSIDE",
  "2C7BbLETTER SMALL CAPITAL TURNED EbSUBSCRIPT SMALL LETTER JaMODIFIER LETTER CAPITAL V",
  "2C7EaLATIN CAPITAL LETTER S WITH SWASH TAILdZ WITH SWASH TAILaCOPTIC CAPITAL LETTER ALFA",
  "2C81bSMALL LETTER ALFAbCAPITAL LETTER VIDAbSMALL LETTER VIDAbCAPITAL LETTER GAMMA",
  "2C85bSMALL LETTER GAMMAbCAPITAL LETTER DALDAbSMALL LETTER DALDAbCAPITAL LETTER EIE",
  "2C89bSMALL LETTER EIEbCAPITAL LETTER SOUbSMALL LETTER SOUbCAPITAL LETTER ZATA",
  "2C8DbSMALL LETTER ZATAbCAPITAL LETTER HATEbSMALL LETTER HATEbCAPITAL LETTER THETHE",
  "2C91bSMALL LETTER THETHEbCAPITAL LETTER IAUDAbSMALL LETTER IAUDAbCAPITAL LETTER KAPA",
  "2C95bSMALL LETTER KAPAbCAPITAL LETTER LAULAbSMALL LETTER LAULAbCAPITAL LETTER MI",
  "2C99bSMALL LETTER MIbCAPITAL LETTER NIbSMALL LETTER NIbCAPITAL LETTER KSIbSMALL LETTER KSI",
  "2C9EbCAPITAL LETTER ObSMALL LETTER ObCAPITAL LETTER PIbSMALL LETTER PIbCAPITAL LETTER RO",
  "2CA3bSMALL LETTER RObCAPITAL LETTER SIMAbSMALL LETTER SIMAbCAPITAL LETTER TAU",
  "2CA7bSMALL LETTER TAUbCAPITAL LETTER UAbSMALL LETTER UAbCAPITAL LETTER FIbSMALL LETTER FI",
  "2CACbCAPITAL LETTER KHIbSMALL LETTER KHIbCAPITAL LETTER PSIbSMALL LETTER PSI",
  "2CB0bCAPITAL LETTER OOUbSMALL LETTER OOUbCAPITAL LETTER DIALECT-P ALEF",
  "2CB3bSMALL LETTER DIALECT-P ALEFbCAPITAL LETTER OLD COPTIC AINbSMALL LETTER OLD COPTIC AIN",
  "2CB6bCAPITAL LETTER CRYPTOGRAMMIC EIEbSMALL LETTER CRYPTOGRAMMIC EIE",
  "2CB8bCAPITAL LETTER DIALECT-P KAPAbSMALL LETTER DIALECT-P KAPAbCAPITAL LETTER DIALECT-P NI",
  "2CBBbSMALL LETTER DIALECT-P NIbCAPITAL LETTER CRYPTOGRAMMIC NIbSMALL LETTER CRYPTOGRAMMIC NI",
  "2CBEbCAPITAL LETTER OLD COPTIC OOUbSMALL LETTER OLD COPTIC OOUbCAPITAL LETTER SAMPI",
  "2CC1bSMALL LETTER SAMPIbCAPITAL LETTER CROSSED SHEIbSMALL LETTER CROSSED SHEI",
  "2CC4bCAPITAL LETTER OLD COPTIC SHEIbSMALL LETTER OLD COPTIC SHEI",
  "2CC6bCAPITAL LETTER OLD COPTIC ESHbSMALL LETTER OLD COPTIC ESHbCAPITAL LETTER AKHMIMIC KHEI",
  "2CC9bSMALL LETTER AKHMIMIC KHEIbCAPITAL LETTER DIALECT-P HORIbSMALL LETTER DIALECT-P HORI",
  "2CCCbCAPITAL LETTER OLD COPTIC HORIbSMALL LETTER OLD COPTIC HORI",
  "2CCEbCAPITAL LETTER OLD COPTIC HAbSMALL LETTER OLD COPTIC HAbCAPITAL LETTER L-SHAPED HA",
  "2CD1bSMALL LETTER L-SHAPED HAbCAPITAL LETTER OLD COPTIC HEIbSMALL LETTER OLD COPTIC HEI",
  "2CD4bCAPITAL LETTER OLD COPTIC HATbSMALL LETTER OLD COPTIC HAT",
  "2CD6bCAPITAL LETTER OLD COPTIC GANGIAbSMALL LETTER OLD COPTIC GANGIA",
  "2CD8bCAPITAL LETTER OLD COPTIC DJAbSMALL LETTER OLD COPTIC DJA",
  "2CDAbCAPITAL LETTER OLD COPTIC SHIMAbSMALL LETTER OLD COPTIC SHIMA",
  "2CDCbCAPITAL LETTER OLD NUBIAN SHIMAbSMALL LETTER OLD NUBIAN SHIMA",
  "2CDEbCAPITAL LETTER OLD NUBIAN NGIbSMALL LETTER OLD NUBIAN NGIbCAPITAL LETTER OLD NUBIAN NYI",
  "2CE1bSMALL LETTER OLD NUBIAN NYIbCAPITAL LETTER OLD NUBIAN WAUbSMALL LETTER OLD NUBIAN WAU",
  "2CE4bSYMBOL KAIcMI ROcPI ROcSTAUROScTAU ROcKHI ROcSHIMA SIMA",
  "2CEBbCAPITAL LETTER CRYPTOGRAMMIC SHEIbSMALL LETTER CRYPTOGRAMMIC SHEI",
  "2CEDbCAPITAL LETTER CRYPTOGRAMMIC GANGIAbSMALL LETTER CRYPTOGRAMMIC GANGIA",
  "2CEFbCOMBINING NI ABOVEcSPIRITUS ASPERdLENISbCAPITAL LETTER BOHAIRIC KHEI",
  "2CF3bSMALL LETTER BOHAIRIC KHEI",
  "2CF9bOLD NUBIAN FULL STOPdDIRECT QUESTION MARKdINDIRECT QUESTION MARKdVERSE DIVIDER",
  "2CFDbFRACTION ONE HALFbFULL STOPbMORPHOLOGICAL DIVIDERaGEORGIAN SMALL LETTER ANdBANdGANdDON",
  "2D04dENdVINdZENdTANdINdKANdLASdMANdNARdONdPARdZHARdRAEdSANdTARdUNdPHARdKHARdGHANdQARdSHIN",
  "2D19dCHINdCANdJILdCILdCHARdXANdJHANdHAEdHEdHIEdWEdHARdHOE",
  "2D27dYN",
  "2D2DdAEN",
  "2D30aTIFINAGH LETTER YAcYABcYABHcYAGcYAGHHcBERBER ACADEMY YAJcYAJcYADcYADHcYADDcYADDHcYEY",
  "2D3CcYAFcYAKcTUAREG YAKcYAKHHcYAHcBERBER ACADEMY YAHcTUAREG YAHcYAHHcYAAcYAKHcTUAREG YAKH",
  "2D47cYAQcTUAREG YAQcYIcYAZHcAHAGGAR YAZHcTUAREG YAZHcYALcYAMcYANcTUAREG YAGNdYANGcYAPcYUcYAR",
  "2D55cYARRcYAGHcTUAREG YAGHcAYER YAGHcYAScYASScYASHcYATcYATHcYACHcYATTcYAVcYAWcYAYcYAZ",
  "2D64cTAWELLEMET YAZcYAZZcYEcYO",
  "2D6FbMODIFIER LETTER LABIALIZATION MARKbSEPARATOR MARK",
  "2D7FbCONSONANT JOINERaETHIOPIC SYLLABLE LOAcMOAcROAcSOAcSHOAcBOAcTOAcCOAcNOAcNYOAcGLOTTAL OA",
  "2D8BcZOAcDOAcDDOAcJOAcTHOAcCHOAcPHOAcPOAcGGWAcGGWIcGGWEEcGGWE",
  "2DA0cSSAcSSUcSSIcSSAAcSSEEcSSEcSSO",
  "2DA8cCCAcCCUcCCIcCCAAcCCEEcCCEcCCO",
  "2DB0cZZAcZZUcZZIcZZAAcZZEEcZZEcZZO",
  "2DB8cCCHAcCCHUcCCHIcCCHAAcCCHEEcCCHEcCCHO",
  "2DC0cQYAcQYUcQYIcQYAAcQYEEcQYEcQYO",
  "2DC8cKYAcKYUcKYIcKYAAcKYEEcKYEcKYO",
  "2DD0cXYAcXYUcXYIcXYAAcXYEEcXYEcXYO",
  "2DD8cGYAcGYUcGYIcGYAAcGYEEcGYEcGYO",
  "2DE0aCOMBINING CYRILLIC LETTER BEdVEdGHEdDEdZHEdZEdKAdELdEMdENdOdPEdERdESdTEdHAdTSEdCHEdSHA",
  "2DF3dSHCHAdFITAdES-TEdAdIEdDJERVdMONOGRAPH UKdYATdYUdIOTIFIED AdLITTLE YUSdBIG YUS",
  "2DFFdIOTIFIED BIG YUSaRIGHT ANGLE SUBSTITUTION MARKERcDOTTED SUBSTITUTION MARKER",
  "2E02aLEFT SUBSTITUTION BRACKETaRIGHT SUBSTITUTION BRACKETaLEFT DOTTED SUBSTITUTION BRACKET",
  "2E05aRIGHT DOTTED SUBSTITUTION BRACKETaRAISED INTERPOLATION MARKER",
  "2E07bDOTTED INTERPOLATION MARKERaDOTTED TRANSPOSITION MARKERaLEFT TRANSPOSITION BRACKET",
  "2E0AaRIGHT TRANSPOSITION BRACKETaRAISED SQUAREaLEFT RAISED OMISSION BRACKET",
  "2E0DaRIGHT RAISED OMISSION BRACKETaEDITORIAL CORONISaPARAGRAPHOSaFORKED PARAGRAPHOS",
  "2E11aREVERSED FORKED PARAGRAPHOSaHYPODIASTOLEaDOTTED OBELOSaDOWNWARDS ANCORAaUPWARDS ANCORA",
  "2E16aDOTTED RIGHT-POINTING ANGLEaDOUBLE OBLIQUE HYPHENaINVERTED INTERROBANGaPALM BRANCH",
  "2E1AaHYPHEN WITH DIAERESISaTILDE WITH RING ABOVEaLEFT LOW PARAPHRASE BRACKET",
  "2E1DaRIGHT LOW PARAPHRASE BRACKETaTILDE WITH DOT ABOVEdBELOWaLEFT VERTICAL BAR WITH QUILL",
  "2E21aRIGHT VERTICAL BAR WITH QUILLaTOP LEFT HALF BRACKETbRIGHT HALF BRACKET",
  "2E24aBOTTOM LEFT HALF BRACKETbRIGHT HALF BRACKETaLEFT SIDEWAYS U BRACKET",
  "2E27aRIGHT SIDEWAYS U BRACKETaLEFT DOUBLE PARENTHESISaRIGHT DOUBLE PARENTHESIS",
  "2E2AaTWO DOTS OVER ONE DOT PUNCTUATIONaONE DOT OVER TWO DOTS PUNCTUATION",
  "2E2CaSQUARED FOUR DOT PUNCTUATIONaFIVE DOT MARKaREVERSED QUESTION MARKaVERTICAL TILDE",
  "2E30aRING POINTaWORD SEPARATOR MIDDLE DOTaTURNED COMMAaRAISED DOTbCOMMAaTURNED SEMICOLON",
  "2E36aDAGGER WITH LEFT GUARDcRIGHT GUARDaTURNED DAGGERaTOP HALF SECTION SIGNaTWO-EM DASH",
  "2E3BaTHREE-EM DASHaSTENOGRAPHIC FULL STOPaVERTICAL SIX DOTSaWIGGLY VERTICAL LINEaCAPITULUM",
  "2E40aDOUBLE HYPHENaREVERSED COMMAaDOUBLE LOW-REVERSED-9 QUOTATION MARKaDASH WITH LEFT UPTURN",
  "2E44aDOUBLE SUSPENSION MARKaINVERTED LOW KAVYKAdWITH KAVYKA ABOVEaLOW KAVYKAcWITH DOT",
  "2E49aDOUBLE STACKED COMMAaDOTTED SOLIDUSaTRIPLE DAGGERaMEDIEVAL COMMAaPARAGRAPHUS MARK",
  "2E4EaPUNCTUS ELEVATUS MARKaCORNISH VERSE DIVIDERaCROSS PATTY WITH RIGHT CROSSBAR",
  "2E51dLEFT CROSSBARaTIRONIAN SIGN CAPITAL ETaMEDIEVAL EXCLAMATION MARKbQUESTION MARK",
  "2E55aLEFT SQUARE BRACKET WITH STROKEaRIGHT SQUARE BRACKET WITH STROKE",
  "2E57aLEFT SQUARE BRACKET WITH DOUBLE STROKEaRIGHT SQUARE BRACKET WITH DOUBLE STROKE",
  "2E59aTOP HALF LEFT PARENTHESIScRIGHT PARENTHESISaBOTTOM HALF LEFT PARENTHESIS",
  "2E5CcRIGHT PARENTHESISaOBLIQUE HYPHEN",
  "2E80aCJK RADICAL REPEATcCLIFFcSECOND ONEdTWOdTHREEcPERSONcBOXcTABLEcKNIFE ONEdTWOcDIVINATION",
  "2E8BcSEALcSMALL ONEdTWOcLAME ONEdTWOdTHREEdFOURcSNAKEcTHREADcSNOUT ONEdTWOcHEART ONEdTWO",
  "2E98cHANDcRAP",
  "2E9BcCHOKEcSUNcMOONcDEATHcMOTHERcCIVILIANcWATER ONEdTWOcFIREcPAW ONEdTWO",
  "2EA6cSIMPLIFIED HALF TREE TRUNKcCOWcDOGcJADEcBOLT OF CLOTHcEYEcSPIRIT ONEdTWOcBAMBOOcSILK",
  "2EB0cC-SIMPLIFIED SILKcNET ONEdTWOdTHREEdFOURcMESHcSHEEPcRAMcEWEcOLDcBRUSH ONEdTWOcMEAT",
  "2EBDcMORTARcGRASS ONEdTWOdTHREEcTIGERcCLOTHEScWEST ONEdTWOcC-SIMPLIFIED SEEcSIMPLIFIED HORN",
  "2EC7cHORNcC-SIMPLIFIED SPEECHdSHELLcFOOTcC-SIMPLIFIED CARTcSIMPLIFIED WALKcWALK ONEdTWOcCITY",
  "2ED0cC-SIMPLIFIED GOLDcLONG ONEdTWOcC-SIMPLIFIED LONGdGATEcMOUND ONEdTWOcRAINcBLUE",
  "2ED9cC-SIMPLIFIED TANNED LEATHERdLEAFdWINDdFLYcEAT ONEdTWOdTHREEcC-SIMPLIFIED EATcHEAD",
  "2EE2cC-SIMPLIFIED HORSEcBONEcGHOSTcC-SIMPLIFIED FISHdBIRDdSALTcSIMPLIFIED WHEATdYELLOW",
  "2EEAcC-SIMPLIFIED FROGcJ-SIMPLIFIED EVENcC-SIMPLIFIED EVENcJ-SIMPLIFIED TOOTH",
  "2EEEcC-SIMPLIFIED TOOTHcJ-SIMPLIFIED DRAGONcC-SIMPLIFIED DRAGONcTURTLEcJ-SIMPLIFIED TURTLE",
  "2EF3cC-SIMPLIFIED TURTLE",
  "2F00aKANGXI RADICAL ONEcLINEcDOTcSLASHcSECONDcHOOKcTWOcLIDcMANcLEGScENTERcEIGHTcDOWN BOX",
  "2F0DcCOVERcICEcTABLEcOPEN BOXcKNIFEcPOWERcWRAPcSPOONcRIGHT OPEN BOXcHIDING ENCLOSUREcTEN",
  "2F18cDIVINATIONcSEALcCLIFFcPRIVATEcAGAINcMOUTHcENCLOSUREcEARTHcSCHOLARcGOdSLOWLYcEVENINGcBIG",
  "2F25cWOMANcCHILDcROOFcINCHcSMALLcLAMEcCORPSEcSPROUTcMOUNTAINcRIVERcWORKcONESELFcTURBANcDRY",
  "2F33cSHORT THREADcDOTTED CLIFFcLONG STRIDEcTWO HANDScSHOOTcBOWcSNOUTcBRISTLEcSTEPcHEART",
  "2F3DcHALBERDcDOORcHANDcBRANCHcRAPcSCRIPTcDIPPERcAXEcSQUAREcNOTcSUNcSAYcMOONcTREEcLACKcSTOP",
  "2F4DcDEATHcWEAPONcDO NOTcCOMPAREcFURcCLANcSTEAMcWATERcFIREcCLAWcFATHERcDOUBLE X",
  "2F59cHALF TREE TRUNKcSLICEcFANGcCOWcDOGcPROFOUNDcJADEcMELONcTILEcSWEETcLIFEcUSEcFIELD",
  "2F66cBOLT OF CLOTHcSICKNESScDOTTED TENTcWHITEcSKINcDISHcEYEcSPEARcARROWcSTONEcSPIRITcTRACK",
  "2F72cGRAINcCAVEcSTANDcBAMBOOcRICEcSILKcJARcNETcSHEEPcFEATHERcOLDcANDcPLOWcEARcBRUSHcMEAT",
  "2F82cMINISTERcSELFcARRIVEcMORTARcTONGUEcOPPOSEcBOATcSTOPPINGcCOLORcGRASScTIGERcINSECTcBLOOD",
  "2F8FcWALK ENCLOSUREcCLOTHEScWESTcSEEcHORNcSPEECHcVALLEYcBEANcPIGcBADGERcSHELLcREDcRUNcFOOT",
  "2F9DcBODYcCARTcBITTERcMORNINGcWALKcCITYcWINEcDISTINGUISHcVILLAGEcGOLDcLONGcGATEcMOUNDcSLAVE",
  "2FABcSHORT TAILED BIRDcRAINcBLUEcWRONGcFACEcLEATHERcTANNED LEATHERcLEEKcSOUNDcLEAFcWINDcFLY",
  "2FB7cEATcHEADcFRAGRANTcHORSEcBONEcTALLcHAIRcFIGHTcSACRIFICIAL WINEcCAULDRONcGHOSTcFISHcBIRD",
  "2FC4cSALTcDEERcWHEATcHEMPcYELLOWcMILLETcBLACKcEMBROIDERYcFROGcTRIPODcDRUMcRATcNOSEcEVEN",
  "2FD2cTOOTHcDRAGONcTURTLEcFLUTE",
  "2FF0aIDEOGRAPHIC DESCRIPTION CHARACTER LEFT TO RIGHTdABOVE TO BELOWdLEFT TO MIDDLE AND RIGHT",
  "2FF3dABOVE TO MIDDLE AND BELOWdFULL SURROUNDdSURROUND FROM ABOVEfBELOWfLEFTfUPPER LEFTgRIGHT",
  "2FFAfLOWER LEFTdOVERLAID",
  "3000bSPACEbCOMMAbFULL STOPaDITTO MARKaJAPANESE INDUSTRIAL STANDARD SYMBOL",
  "3005aIDEOGRAPHIC ITERATION MARKbCLOSING MARKbNUMBER ZEROaLEFT ANGLE BRACKET",
  "3009aRIGHT ANGLE BRACKETaLEFT DOUBLE ANGLE BRACKETaRIGHT DOUBLE ANGLE BRACKET",
  "300CaLEFT CORNER BRACKETaRIGHT CORNER BRACKETaLEFT WHITE CORNER BRACKET",
  "300FaRIGHT WHITE CORNER BRACKETaLEFT BLACK LENTICULAR BRACKETaRIGHT BLACK LENTICULAR BRACKET",
  "3012aPOSTAL MARKaGETA MARKaLEFT TORTOISE SHELL BRACKETaRIGHT TORTOISE SHELL BRACKET",
  "3016aLEFT WHITE LENTICULAR BRACKETaRIGHT WHITE LENTICULAR BRACKET",
  "3018aLEFT WHITE TORTOISE SHELL BRACKETaRIGHT WHITE TORTOISE SHELL BRACKET",
  "301AaLEFT WHITE SQUARE BRACKETaRIGHT WHITE SQUARE BRACKETaWAVE DASH",
  "301DaREVERSED DOUBLE PRIME QUOTATION MARKaDOUBLE PRIME QUOTATION MARK",
  "301FaLOW DOUBLE PRIME QUOTATION MARKaPOSTAL MARK FACEaHANGZHOU NUMERAL ONEcTWOcTHREEcFOUR",
  "3025cFIVEcSIXcSEVENcEIGHTcNINEaIDEOGRAPHIC LEVEL TONE MARKbRISING TONE MARK",
  "302CbDEPARTING TONE MARKbENTERING TONE MARKaHANGUL SINGLE DOT TONE MARKbDOUBLE DOT TONE MARK",
  "3030aWAVY DASHaVERTICAL KANA REPEAT MARKdWITH VOICED SOUND MARKdMARK UPPER HALF",
  "3034dWITH VOICED SOUND MARK UPPER HALFdMARK LOWER HALFaCIRCLED POSTAL MARK",
  "3037aIDEOGRAPHIC TELEGRAPH LINE FEED SEPARATOR SYMBOLaHANGZHOU NUMERAL TENcTWENTYcTHIRTY",
  "303BaVERTICAL IDEOGRAPHIC ITERATION MARKaMASU MARKaPART ALTERNATION MARK",
  "303EaIDEOGRAPHIC VARIATION INDICATORbHALF FILL SPACE",
  "3041aHIRAGANA LETTER SMALL AcAcSMALL IcIcSMALL UcUcSMALL EcEcSMALL OcOcKAcGAcKIcGIcKUcGUcKE",
  "3052cGEcKOcGOcSAcZAcSIcZIcSUcZUcSEcZEcSOcZOcTAcDAcTIcDIcSMALL TUcTUcDUcTEcDEcTOcDOcNAcNIcNU",
  "306DcNEcNOcHAcBAcPAcHIcBIcPIcHUcBUcPUcHEcBEcPEcHOcBOcPOcMAcMIcMUcMEcMOcSMALL YAcYAcSMALL YU",
  "3086cYUcSMALL YOcYOcRAcRIcRUcREcROcSMALL WAcWAcWIcWEcWOcNcVUcSMALL KAdKE",
  "3099aCOMBINING KATAKANA-HIRAGANA VOICED SOUND MARKcSEMI-VOICED SOUND MARK",
  "309BaKATAKANA-HIRAGANA VOICED SOUND MARKbSEMI-VOICED SOUND MARKaHIRAGANA ITERATION MARK",
  "309EbVOICED ITERATION MARKbDIGRAPH YORIaKATAKANA-HIRAGANA DOUBLE HYPHEN",
  "30A1aKATAKANA LETTER SMALL AcAcSMALL IcIcSMALL UcUcSMALL EcEcSMALL OcOcKAcGAcKIcGIcKUcGUcKE",
  "30B2cGEcKOcGOcSAcZAcSIcZIcSUcZUcSEcZEcSOcZOcTAcDAcTIcDIcSMALL TUcTUcDUcTEcDEcTOcDOcNAcNIcNU",
  "30CDcNEcNOcHAcBAcPAcHIcBIcPIcHUcBUcPUcHEcBEcPEcHOcBOcPOcMAcMIcMUcMEcMOcSMALL YAcYAcSMALL YU",
  "30E6cYUcSMALL YOcYOcRAcRIcRUcREcROcSMALL WAcWAcWIcWEcWOcNcVUcSMALL KAdKEcVAcVIcVEcVO",
  "30FBbMIDDLE DOTaKATAKANA-HIRAGANA PROLONGED SOUND MARKaKATAKANA ITERATION MARK",
  "30FEbVOICED ITERATION MARKbDIGRAPH KOTO",
  "3105aBOPOMOFO LETTER BcPcMcFcDcTcNcLcGcKcHcJcQcXcZHcCHcSHcRcZcCcScAcOcEcEHcAIcEIcAUcOUcANcEN",
  "3124cANGcENGcERcIcUcIUcVcNGcGNcIHcO WITH DOT ABOVEcNN",
  "3131aHANGUL LETTER KIYEOKcSSANGKIYEOKcKIYEOK-SIOScNIEUNcNIEUN-CIEUCcNIEUN-HIEUHcTIKEUT",
  "3138cSSANGTIKEUTcRIEULcRIEUL-KIYEOKcRIEUL-MIEUMcRIEUL-PIEUPcRIEUL-SIOScRIEUL-THIEUTH",
  "313FcRIEUL-PHIEUPHcRIEUL-HIEUHcMIEUMcPIEUPcSSANGPIEUPcPIEUP-SIOScSIOScSSANGSIOScIEUNGcCIEUC",
  "3149cSSANGCIEUCcCHIEUCHcKHIEUKHcTHIEUTHcPHIEUPHcHIEUHcAcAEcYAcYAEcEOcEcYEOcYEcOcWAcWAEcOEcYO",
  "315CcUcWEOcWEcWIcYUcEUcYIcIbFILLERbLETTER SSANGNIEUNcNIEUN-TIKEUTcNIEUN-SIOScNIEUN-PANSIOS",
  "3169cRIEUL-KIYEOK-SIOScRIEUL-TIKEUTcRIEUL-PIEUP-SIOScRIEUL-PANSIOScRIEUL-YEORINHIEUH",
  "316EcMIEUM-PIEUPcMIEUM-SIOScMIEUM-PANSIOScKAPYEOUNMIEUMcPIEUP-KIYEOKcPIEUP-TIKEUT",
  "3174cPIEUP-SIOS-KIYEOKcPIEUP-SIOS-TIKEUTcPIEUP-CIEUCcPIEUP-THIEUTHcKAPYEOUNPIEUP",
  "3179cKAPYEOUNSSANGPIEUPcSIOS-KIYEOKcSIOS-NIEUNcSIOS-TIKEUTcSIOS-PIEUPcSIOS-CIEUCcPANSIOS",
  "3180cSSANGIEUNGcYESIEUNGcYESIEUNG-SIOScYESIEUNG-PANSIOScKAPYEOUNPHIEUPHcSSANGHIEUH",
  "3186cYEORINHIEUHcYO-YAcYO-YAEcYO-IcYU-YEOcYU-YEcYU-IcARAEAcARAEAE",
  "3190aIDEOGRAPHIC ANNOTATION LINKING MARKcREVERSE MARKcONE MARKcTWO MARKcTHREE MARKcFOUR MARK",
  "3196cTOP MARKcMIDDLE MARKcBOTTOM MARKcFIRST MARKcSECOND MARKcTHIRD MARKcFOURTH MARK",
  "319DcHEAVEN MARKcEARTH MARKcMAN MARKaBOPOMOFO LETTER BUcZIcJIcGUcEEcENNcOOcONNcIRcANNcINN",
  "31ABcUNNcIMcNGGcAINNcAUNNcAMcOMcONGcINNNbFINAL LETTER PdTdKdHbLETTER GHcLHcZYbFINAL LETTER G",
  "31BCbLETTER GWcKWcOEcAHaCJK STROKE TcWGcXGcBXGcSWcHZZcHZGcHPcHZWGcSZWGcHZTcHZZPcHPWGcHZW",
  "31CEcHZZZcNcHcScPcSPcDcHZcHGcSZcSWZcSTcSGcPDcPZcTNcSZZcSWGcHXWGcHZZZGcPGcQ",
  "31F0aKATAKANA LETTER SMALL KUdSIdSUdTOdNUdHAdHIdHUdHEdHOdMUdRAdRIdRUdREdRO",
  "3200aPARENTHESIZED HANGUL KIYEOKcNIEUNcTIKEUTcRIEULcMIEUMcPIEUPcSIOScIEUNGcCIEUCcCHIEUCH",
  "320AcKHIEUKHcTHIEUTHcPHIEUPHcHIEUHcKIYEOK AcNIEUN AcTIKEUT AcRIEUL AcMIEUM AcPIEUP AcSIOS A",
  "3215cIEUNG AcCIEUC AcCHIEUCH AcKHIEUKH AcTHIEUTH AcPHIEUPH AcHIEUH AcCIEUC U",
  "321DbKOREAN CHARACTER OJEONdO HU",
  "3220bIDEOGRAPH ONEcTWOcTHREEcFOURcFIVEcSIXcSEVENcEIGHTcNINEcTENcMOONcFIREcWATERcWOODcMETAL",
  "322FcEARTHcSUNcSTOCKcHAVEcSOCIETYcNAMEcSPECIALcFINANCIALcCONGRATULATIONcLABORcREPRESENTcCALL",
  "323BcSTUDYcSUPERVISEcENTERPRISEcRESOURCEcALLIANCEcFESTIVALcRESTcSELFcREACH",
  "3244aCIRCLED IDEOGRAPH QUESTIONcKINDERGARTENcSCHOOLcKOTObNUMBER TEN ON BLACK SQUARE",
  "3249cTWENTY ON BLACK SQUAREcTHIRTY ON BLACK SQUAREcFORTY ON BLACK SQUARE",
  "324CcFIFTY ON BLACK SQUAREcSIXTY ON BLACK SQUAREcSEVENTY ON BLACK SQUARE",
  "324FcEIGHTY ON BLACK SQUAREaPARTNERSHIP SIGNaCIRCLED NUMBER TWENTY ONEdTWOdTHREEdFOURdFIVE",
  "3256dSIXdSEVENdEIGHTdNINEcTHIRTYdONEdTWOdTHREEdFOURdFIVEbHANGUL KIYEOKcNIEUNcTIKEUTcRIEUL",
  "3264cMIEUMcPIEUPcSIOScIEUNGcCIEUCcCHIEUCHcKHIEUKHcTHIEUTHcPHIEUPHcHIEUHcKIYEOK AcNIEUN A",
  "3270cTIKEUT AcRIEUL AcMIEUM AcPIEUP AcSIOS AcIEUNG AcCIEUC AcCHIEUCH AcKHIEUKH AcTHIEUTH A",
  "327AcPHIEUPH AcHIEUH AbKOREAN CHARACTER CHAMKOdJUEUIbHANGUL IEUNG UaKOREAN STANDARD SYMBOL",
  "3280aCIRCLED IDEOGRAPH ONEcTWOcTHREEcFOURcFIVEcSIXcSEVENcEIGHTcNINEcTENcMOONcFIREcWATERcWOOD",
  "328EcMETALcEARTHcSUNcSTOCKcHAVEcSOCIETYcNAMEcSPECIALcFINANCIALcCONGRATULATIONcLABORcSECRET",
  "329AcMALEcFEMALEcSUITABLEcEXCELLENTcPRINTcATTENTIONcITEMcRESTcCOPYcCORRECTcHIGHcCENTREcLOW",
  "32A7cLEFTcRIGHTcMEDICINEcRELIGIONcSTUDYcSUPERVISEcENTERPRISEcRESOURCEcALLIANCEcNIGHT",
  "32B1bNUMBER THIRTY SIXdSEVENdEIGHTdNINEcFORTYdONEdTWOdTHREEdFOURdFIVEdSIXdSEVENdEIGHTdNINE",
  "32BFcFIFTYaIDEOGRAPHIC TELEGRAPH SYMBOL FOR JANUARYeFEBRUARYeMARCHeAPRILeMAYeJUNEeJULY",
  "32C7eAUGUSTeSEPTEMBEReOCTOBEReNOVEMBEReDECEMBERaSQUARE HGbERGbEVaLIMITED LIABILITY SIGN",
  "32D0aCIRCLED KATAKANA AcIcUcEcOcKAcKIcKUcKEcKOcSAcSIcSUcSEcSOcTAcTIcTUcTEcTOcNAcNIcNUcNEcNO",
  "32E9cHAcHIcHUcHEcHOcMAcMIcMUcMEcMOcYAcYUcYOcRAcRIcRUcREcROcWAcWIcWEcWOaSQUARE ERA NAME REIWA",
  "3300bAPAATObARUHUAbANPEAbAARUbININGUbINTIbUONbESUKUUDObEEKAAbONSUbOOMUbKAIRIbKARATTObKARORII",
  "330EbGARONbGANMAbGIGAbGINIIbKYURIIbGIRUDAAbKIRObKIROGURAMUbKIROMEETORUbKIROWATTObGURAMU",
  "3319bGURAMUTONbKURUZEIRObKUROONEbKEESUbKORUNAbKOOPObSAIKURUbSANTIIMUbSIRINGUbSENTIbSENTO",
  "3324bDAASUbDESIbDORUbTONbNANObNOTTObHAITUbPAASENTObPAATUbBAARERUbPIASUTORUbPIKURUbPIKObBIRU",
  "3332bHUARADDObHUIITObBUSSYERUbHURANbHEKUTAARUbPESObPENIHIbHERUTUbPENSUbPEEZIbBEETAbPOINTO",
  "333EbBORUTObHONbPONDObHOORUbHOONbMAIKURObMAIRUbMAHHAbMARUKUbMANSYONbMIKURONbMIRIbMIRIBAARU",
  "334BbMEGAbMEGATONbMEETORUbYAADObYAARUbYUANbRITTORUbRIRAbRUPIIbRUUBURUbREMUbRENTOGENbWATTO",
  "3358aIDEOGRAPHIC TELEGRAPH SYMBOL FOR HOUR ZEROfONEfTWOfTHREEfFOURfFIVEfSIXfSEVENfEIGHTfNINE",
  "3362fTENfELEVENfTWELVEfTHIRTEENfFOURTEENfFIFTEENfSIXTEENfSEVENTEENfEIGHTEENfNINETEENfTWENTY",
  "336DfTWENTY-ONEfTWENTY-TWOfTWENTY-THREEfTWENTY-FOURaSQUARE HPAbDAbAUbBARbOVbPCbDMcSQUARED",
  "3379cCUBEDbIUbERA NAME HEISEIdSYOUWAdTAISYOUdMEIZIbCORPORATIONbPA AMPSbNAbMU AbMAbKAbKBbMB",
  "3387bGBbCALbKCALbPFbNFbMU FcGbMGbKGbHZbKHZbMHZbGHZbTHZbMU LbMLbDLbKLbFMbNMbMU MbMMbCMbKM",
  "339FbMM SQUAREDbCM SQUAREDbM SQUAREDbKM SQUAREDbMM CUBEDbCM CUBEDbM CUBEDbKM CUBEDbM OVER S",
  "33A8eSQUAREDbPAbKPAbMPAbGPAbRADcOVER SeSQUAREDbPSbNSbMU SbMSbPVbNVbMU VbMVbKVbMV MEGAbPWbNW",
  "33BCbMU WbMWbKWbMW MEGAbK OHMbM OHMbAMbBQbCCbCDbC OVER KGbCObDBbGYbHAbHPbINbKKbKM CAPITALbKT",
  "33D0bLMbLNbLOGbLXbMB SMALLbMILbMOLbPHbPMbPPMbPRbSRbSVbWBbV OVER MbA OVER M",
  "33E0aIDEOGRAPHIC TELEGRAPH SYMBOL FOR DAY ONEfTWOfTHREEfFOURfFIVEfSIXfSEVENfEIGHTfNINEfTEN",
  "33EAfELEVENfTWELVEfTHIRTEENfFOURTEENfFIFTEENfSIXTEENfSEVENTEENfEIGHTEENfNINETEENfTWENTY",
  "33F4fTWENTY-ONEfTWENTY-TWOfTWENTY-THREEfTWENTY-FOURfTWENTY-FIVEfTWENTY-SIXfTWENTY-SEVEN",
  "33FBfTWENTY-EIGHTfTWENTY-NINEfTHIRTYfTHIRTY-ONEaSQUARE GAL",
  "4DC0aHEXAGRAM FOR THE CREATIVE HEAVENdRECEPTIVE EARTHcDIFFICULTY AT THE BEGINNING",
  "4DC3cYOUTHFUL FOLLYcWAITINGcCONFLICTcTHE ARMYcHOLDING TOGETHERcSMALL TAMINGcTREADINGcPEACE",
  "4DCBcSTANDSTILLcFELLOWSHIPcGREAT POSSESSIONcMODESTYcENTHUSIASMcFOLLOWINGcWORK ON THE DECAYED",
  "4DD2cAPPROACHcCONTEMPLATIONcBITING THROUGHcGRACEcSPLITTING APARTcRETURNcINNOCENCE",
  "4DD9cGREAT TAMINGcMOUTH CORNERScGREAT PREPONDERANCEcTHE ABYSMAL WATERdCLINGING FIRE",
  "4DDEcINFLUENCEcDURATIONcRETREATcGREAT POWERcPROGRESScDARKENING OF THE LIGHTcTHE FAMILY",
  "4DE5cOPPOSITIONcOBSTRUCTIONcDELIVERANCEcDECREASEcINCREASEcBREAKTHROUGHcCOMING TO MEET",
  "4DECcGATHERING TOGETHERcPUSHING UPWARDcOPPRESSIONcTHE WELLcREVOLUTIONcTHE CAULDRON",
  "4DF2dAROUSING THUNDERdKEEPING STILL MOUNTAINcDEVELOPMENTcTHE MARRYING MAIDENcABUNDANCE",
  "4DF7cTHE WANDERERdGENTLE WINDdJOYOUS LAKEcDISPERSIONcLIMITATIONcINNER TRUTH",
  "4DFDcSMALL PREPONDERANCEcAFTER COMPLETIONcBEFORE COMPLETION",
  "A000aYI SYLLABLE ITcIXcIcIPcIETcIEXcIEcIEPcATcAXcAcAPcUOXcUOcUOPcOTcOXcOcOPcEXcEcWUcBITcBIX",
  "A018cBIcBIPcBIETcBIEXcBIEcBIEPcBATcBAXcBAcBAPcBUOXcBUOcBUOPcBOTcBOXcBOcBOPcBEXcBEcBEPcBUT",
  "A02DcBUXcBUcBUPcBURXcBURcBYTcBYXcBYcBYPcBYRXcBYRcPITcPIXcPIcPIPcPIEXcPIEcPIEPcPATcPAXcPAcPAP",
  "A043cPUOXcPUOcPUOPcPOTcPOXcPOcPOPcPUTcPUXcPUcPUPcPURXcPURcPYTcPYXcPYcPYPcPYRXcPYRcBBITcBBIX",
  "A058cBBIcBBIPcBBIETcBBIEXcBBIEcBBIEPcBBATcBBAXcBBAcBBAPcBBUOXcBBUOcBBUOPcBBOTcBBOXcBBOcBBOP",
  "A069cBBEXcBBEcBBEPcBBUTcBBUXcBBUcBBUPcBBURXcBBURcBBYTcBBYXcBBYcBBYPcNBITcNBIXcNBIcNBIPcNBIEX",
  "A07BcNBIEcNBIEPcNBATcNBAXcNBAcNBAPcNBOTcNBOXcNBOcNBOPcNBUTcNBUXcNBUcNBUPcNBURXcNBURcNBYT",
  "A08CcNBYXcNBYcNBYPcNBYRXcNBYRcHMITcHMIXcHMIcHMIPcHMIEXcHMIEcHMIEPcHMATcHMAXcHMAcHMAPcHMUOX",
  "A09DcHMUOcHMUOPcHMOTcHMOXcHMOcHMOPcHMUTcHMUXcHMUcHMUPcHMURXcHMURcHMYXcHMYcHMYPcHMYRXcHMYR",
  "A0AEcMITcMIXcMIcMIPcMIEXcMIEcMIEPcMATcMAXcMAcMAPcMUOTcMUOXcMUOcMUOPcMOTcMOXcMOcMOPcMEXcME",
  "A0C3cMUTcMUXcMUcMUPcMURXcMURcMYTcMYXcMYcMYPcFITcFIXcFIcFIPcFATcFAXcFAcFAPcFOXcFOcFOPcFUTcFUX",
  "A0DAcFUcFUPcFURXcFURcFYTcFYXcFYcFYPcVITcVIXcVIcVIPcVIETcVIEXcVIEcVIEPcVATcVAXcVAcVAPcVOTcVOX",
  "A0F0cVOcVOPcVEXcVEPcVUTcVUXcVUcVUPcVURXcVURcVYTcVYXcVYcVYPcVYRXcVYRcDITcDIXcDIcDIPcDIEXcDIE",
  "A106cDIEPcDATcDAXcDAcDAPcDUOXcDUOcDOTcDOXcDOcDOPcDEXcDEcDEPcDUTcDUXcDUcDUPcDURXcDURcTITcTIX",
  "A11CcTIcTIPcTIEXcTIEcTIEPcTATcTAXcTAcTAPcTUOTcTUOXcTUOcTUOPcTOTcTOXcTOcTOPcTEXcTEcTEPcTUT",
  "A131cTUXcTUcTUPcTURXcTURcDDITcDDIXcDDIcDDIPcDDIEXcDDIEcDDIEPcDDATcDDAXcDDAcDDAPcDDUOXcDDUO",
  "A143cDDUOPcDDOTcDDOXcDDOcDDOPcDDEXcDDEcDDEPcDDUTcDDUXcDDUcDDUPcDDURXcDDURcNDITcNDIXcNDIcNDIP",
  "A155cNDIEXcNDIEcNDATcNDAXcNDAcNDAPcNDOTcNDOXcNDOcNDOPcNDEXcNDEcNDEPcNDUTcNDUXcNDUcNDUPcNDURX",
  "A167cNDURcHNITcHNIXcHNIcHNIPcHNIETcHNIEXcHNIEcHNIEPcHNATcHNAXcHNAcHNAPcHNUOXcHNUOcHNOTcHNOX",
  "A178cHNOPcHNEXcHNEcHNEPcHNUTcNITcNIXcNIcNIPcNIEXcNIEcNIEPcNAXcNAcNAPcNUOXcNUOcNUOPcNOTcNOX",
  "A18CcNOcNOPcNEXcNEcNEPcNUTcNUXcNUcNUPcNURXcNURcHLITcHLIXcHLIcHLIPcHLIEXcHLIEcHLIEPcHLATcHLAX",
  "A1A0cHLAcHLAPcHLUOXcHLUOcHLUOPcHLOXcHLOcHLOPcHLEXcHLEcHLEPcHLUTcHLUXcHLUcHLUPcHLURXcHLUR",
  "A1B1cHLYTcHLYXcHLYcHLYPcHLYRXcHLYRcLITcLIXcLIcLIPcLIETcLIEXcLIEcLIEPcLATcLAXcLAcLAPcLUOT",
  "A1C4cLUOXcLUOcLUOPcLOTcLOXcLOcLOPcLEXcLEcLEPcLUTcLUXcLUcLUPcLURXcLURcLYTcLYXcLYcLYPcLYRXcLYR",
  "A1DAcGITcGIXcGIcGIPcGIETcGIEXcGIEcGIEPcGATcGAXcGAcGAPcGUOTcGUOXcGUOcGUOPcGOTcGOXcGOcGOPcGET",
  "A1EFcGEXcGEcGEPcGUTcGUXcGUcGUPcGURXcGURcKITcKIXcKIcKIPcKIEXcKIEcKIEPcKATcKAXcKAcKAPcKUOXcKUO",
  "A205cKUOPcKOTcKOXcKOcKOPcKETcKEXcKEcKEPcKUTcKUXcKUcKUPcKURXcKURcGGITcGGIXcGGIcGGIEXcGGIE",
  "A219cGGIEPcGGATcGGAXcGGAcGGAPcGGUOTcGGUOXcGGUOcGGUOPcGGOTcGGOXcGGOcGGOPcGGETcGGEXcGGEcGGEP",
  "A22AcGGUTcGGUXcGGUcGGUPcGGURXcGGURcMGIEXcMGIEcMGATcMGAXcMGAcMGAPcMGUOXcMGUOcMGUOPcMGOTcMGOX",
  "A23BcMGOcMGOPcMGEXcMGEcMGEPcMGUTcMGUXcMGUcMGUPcMGURXcMGURcHXITcHXIXcHXIcHXIPcHXIETcHXIEX",
  "A24CcHXIEcHXIEPcHXATcHXAXcHXAcHXAPcHXUOTcHXUOXcHXUOcHXUOPcHXOTcHXOXcHXOcHXOPcHXEXcHXEcHXEP",
  "A25DcNGIEXcNGIEcNGIEPcNGATcNGAXcNGAcNGAPcNGUOTcNGUOXcNGUOcNGOTcNGOXcNGOcNGOPcNGEXcNGEcNGEP",
  "A26EcHITcHIEXcHIEcHATcHAXcHAcHAPcHUOTcHUOXcHUOcHUOPcHOTcHOXcHOcHOPcHEXcHEcHEPcWATcWAXcWAcWAP",
  "A284cWUOXcWUOcWUOPcWOXcWOcWOPcWEXcWEcWEPcZITcZIXcZIcZIPcZIEXcZIEcZIEPcZATcZAXcZAcZAPcZUOX",
  "A299cZUOcZUOPcZOTcZOXcZOcZOPcZEXcZEcZEPcZUTcZUXcZUcZUPcZURXcZURcZYTcZYXcZYcZYPcZYRXcZYRcCIT",
  "A2AFcCIXcCIcCIPcCIETcCIEXcCIEcCIEPcCATcCAXcCAcCAPcCUOXcCUOcCUOPcCOTcCOXcCOcCOPcCEXcCEcCEP",
  "A2C4cCUTcCUXcCUcCUPcCURXcCURcCYTcCYXcCYcCYPcCYRXcCYRcZZITcZZIXcZZIcZZIPcZZIETcZZIEXcZZIE",
  "A2D7cZZIEPcZZATcZZAXcZZAcZZAPcZZOXcZZOcZZOPcZZEXcZZEcZZEPcZZUXcZZUcZZUPcZZURXcZZURcZZYTcZZYX",
  "A2E9cZZYcZZYPcZZYRXcZZYRcNZITcNZIXcNZIcNZIPcNZIEXcNZIEcNZIEPcNZATcNZAXcNZAcNZAPcNZUOXcNZUO",
  "A2FAcNZOXcNZOPcNZEXcNZEcNZUXcNZUcNZUPcNZURXcNZURcNZYTcNZYXcNZYcNZYPcNZYRXcNZYRcSITcSIXcSI",
  "A30CcSIPcSIEXcSIEcSIEPcSATcSAXcSAcSAPcSUOXcSUOcSUOPcSOTcSOXcSOcSOPcSEXcSEcSEPcSUTcSUXcSUcSUP",
  "A322cSURXcSURcSYTcSYXcSYcSYPcSYRXcSYRcSSITcSSIXcSSIcSSIPcSSIEXcSSIEcSSIEPcSSATcSSAXcSSAcSSAP",
  "A335cSSOTcSSOXcSSOcSSOPcSSEXcSSEcSSEPcSSUTcSSUXcSSUcSSUPcSSYTcSSYXcSSYcSSYPcSSYRXcSSYRcZHAT",
  "A347cZHAXcZHAcZHAPcZHUOXcZHUOcZHUOPcZHOTcZHOXcZHOcZHOPcZHETcZHEXcZHEcZHEPcZHUTcZHUXcZHUcZHUP",
  "A359cZHURXcZHURcZHYTcZHYXcZHYcZHYPcZHYRXcZHYRcCHATcCHAXcCHAcCHAPcCHUOTcCHUOXcCHUOcCHUOPcCHOT",
  "A36AcCHOXcCHOcCHOPcCHETcCHEXcCHEcCHEPcCHUXcCHUcCHUPcCHURXcCHURcCHYTcCHYXcCHYcCHYPcCHYRXcCHYR",
  "A37CcRRAXcRRAcRRUOXcRRUOcRROTcRROXcRROcRROPcRRETcRREXcRREcRREPcRRUTcRRUXcRRUcRRUPcRRURXcRRUR",
  "A38EcRRYTcRRYXcRRYcRRYPcRRYRXcRRYRcNRATcNRAXcNRAcNRAPcNROXcNROcNROPcNRETcNREXcNREcNREPcNRUT",
  "A3A0cNRUXcNRUcNRUPcNRURXcNRURcNRYTcNRYXcNRYcNRYPcNRYRXcNRYRcSHATcSHAXcSHAcSHAPcSHUOXcSHUO",
  "A3B1cSHUOPcSHOTcSHOXcSHOcSHOPcSHETcSHEXcSHEcSHEPcSHUTcSHUXcSHUcSHUPcSHURXcSHURcSHYTcSHYXcSHY",
  "A3C3cSHYPcSHYRXcSHYRcRATcRAXcRAcRAPcRUOXcRUOcRUOPcROTcROXcROcROPcREXcREcREPcRUTcRUXcRUcRUP",
  "A3D8cRURXcRURcRYTcRYXcRYcRYPcRYRXcRYRcJITcJIXcJIcJIPcJIETcJIEXcJIEcJIEPcJUOTcJUOXcJUOcJUOP",
  "A3ECcJOTcJOXcJOcJOPcJUTcJUXcJUcJUPcJURXcJURcJYTcJYXcJYcJYPcJYRXcJYRcQITcQIXcQIcQIPcQIETcQIEX",
  "A402cQIEcQIEPcQUOTcQUOXcQUOcQUOPcQOTcQOXcQOcQOPcQUTcQUXcQUcQUPcQURXcQURcQYTcQYXcQYcQYPcQYRX",
  "A417cQYRcJJITcJJIXcJJIcJJIPcJJIETcJJIEXcJJIEcJJIEPcJJUOXcJJUOcJJUOPcJJOTcJJOXcJJOcJJOPcJJUT",
  "A428cJJUXcJJUcJJUPcJJURXcJJURcJJYTcJJYXcJJYcJJYPcNJITcNJIXcNJIcNJIPcNJIETcNJIEXcNJIEcNJIEP",
  "A439cNJUOXcNJUOcNJOTcNJOXcNJOcNJOPcNJUXcNJUcNJUPcNJURXcNJURcNJYTcNJYXcNJYcNJYPcNJYRXcNJYR",
  "A44AcNYITcNYIXcNYIcNYIPcNYIETcNYIEXcNYIEcNYIEPcNYUOXcNYUOcNYUOPcNYOTcNYOXcNYOcNYOPcNYUTcNYUX",
  "A45BcNYUcNYUPcXITcXIXcXIcXIPcXIETcXIEXcXIEcXIEPcXUOXcXUOcXOTcXOXcXOcXOPcXYTcXYXcXYcXYPcXYRX",
  "A470cXYRcYITcYIXcYIcYIPcYIETcYIEXcYIEcYIEPcYUOTcYUOXcYUOcYUOPcYOTcYOXcYOcYOPcYUTcYUXcYUcYUP",
  "A485cYURXcYURcYYTcYYXcYYcYYPcYYRXcYYR",
  "A490bRADICAL QOTcLIcKITcNYIPcCYPcSSIcGGOPcGEPcMIcHXITcLYRcBBUTcMOPcYOcPUTcHXUOcTATcGAcZUP",
  "A4A3cCYTcDDURcBURcGGUOcNYOPcTUcOPcJJUTcZOTcPYTcHMOcYITcVURcSHYcVEPcZAcJOcNZUPcJJYcGOTcJJIE",
  "A4B8cWOcDUcSHURcLIEcCYcCUOPcCIPcHXOPcSHATcZURcSHOPcCHEcZZIETcNBIEcKE",
  "A4D0aLISU LETTER BAcPAcPHAcDAcTAcTHAcGAcKAcKHAcJAcCAcCHAcDZAcTSAcTSHAcMAcNAcLAcSAcZHAcZAcNGA",
  "A4E6cHAcXAcHHAcFAcWAcSHAcYAcGHAcAcAEcEcEUcIcOcUcUEcUHcOEcTONE MYA TIdNA POdMYA CYAeBOeNAeJEU",
  "A4FEbPUNCTUATION COMMAcFULL STOPaVAI SYLLABLE EEcEENcHEEcWEEcWEENcPEEcBHEEcBEEcMBEEcKPEE",
  "A50AcMGBEEcGBEEcFEEcVEEcTEEcTHEEcDHEEcDHHEEcLEEcREEcDEEcNDEEcSEEcSHEEcZEEcZHEEcCEEcJEEcNJEE",
  "A51DcYEEcKEEcNGGEEcGEEcMEEcNEEcNYEEcIcINcHIcHINcWIcWINcPIcBHIcBIcMBIcKPIcMGBIcGBIcFIcVIcTI",
  "A534cTHIcDHIcDHHIcLIcRIcDIcNDIcSIcSHIcZIcZHIcCIcJIcNJIcYIcKIcNGGIcGIcMIcNIcNYIcAcANcNGANcHA",
  "A54DcHANcWAcWANcPAcBHAcBAcMBAcKPAcKPANcMGBAcGBAcFAcVAcTAcTHAcDHAcDHHAcLAcRAcDAcNDAcSAcSHAcZA",
  "A565cZHAcCAcJAcNJAcYAcKAcKANcNGGAcGAcMAcNAcNYAcOOcOONcHOOcWOOcWOONcPOOcBHOOcBOOcMBOOcKPOO",
  "A57BcMGBOOcGBOOcFOOcVOOcTOOcTHOOcDHOOcDHHOOcLOOcROOcDOOcNDOOcSOOcSHOOcZOOcZHOOcCOOcJOOcNJOO",
  "A58EcYOOcKOOcNGGOOcGOOcMOOcNOOcNYOOcUcUNcHUcHUNcWUcWUNcPUcBHUcBUcMBUcKPUcMGBUcGBUcFUcVUcTU",
  "A5A5cTHUcDHUcDHHUcLUcRUcDUcNDUcSUcSHUcZUcZHUcCUcJUcNJUcYUcKUcNGGUcGUcMUcNUcNYUcOcONcNGONcHO",
  "A5BEcHONcWOcWONcPOcBHOcBOcMBOcKPOcMGBOcGBOcGBONcFOcVOcTOcTHOcDHOcDHHOcLOcROcDOcNDOcSOcSHOcZO",
  "A5D6cZHOcCOcJOcNJOcYOcKOcNGGOcGOcMOcNOcNYOcEcENcNGENcHEcHENcWEcWENcPEcBHEcBEcMBEcKPEcKPEN",
  "A5EEcMGBEcGBEcGBENcFEcVEcTEcTHEcDHEcDHHEcLEcREcDEcNDEcSEcSHEcZEcZHEcCEcJEcNJEcYEcKEcNGGE",
  "A605cNGGENcGEcGENcMEcNEcNYEcNGcLENGTHENERbCOMMAbFULL STOPbQUESTION MARKbSYLLABLE NDOLE FAdKA",
  "A612dSOObSYMBOL FEENGcKEENGcTINGcNIIcBANGcFAAcTAAcDANGcDOONGcKUNGcTONGcDO-OcJONGbDIGIT ZERO",
  "A621cONEcTWOcTHREEcFOURcFIVEcSIXcSEVENcEIGHTcNINEbSYLLABLE NDOLE MAdDO",
  "A640aCYRILLIC CAPITAL LETTER ZEMLYAbSMALL LETTER ZEMLYAbCAPITAL LETTER DZELO",
  "A643bSMALL LETTER DZELObCAPITAL LETTER REVERSED DZEbSMALL LETTER REVERSED DZE",
  "A646bCAPITAL LETTER IOTAbSMALL LETTER IOTAbCAPITAL LETTER DJERVbSMALL LETTER DJERV",
  "A64AbCAPITAL LETTER MONOGRAPH UKbSMALL LETTER MONOGRAPH UKbCAPITAL LETTER BROAD OMEGA",
  "A64DbSMALL LETTER BROAD OMEGAbCAPITAL LETTER NEUTRAL YERbSMALL LETTER NEUTRAL YER",
  "A650bCAPITAL LETTER YERU WITH BACK YERbSMALL LETTER YERU WITH BACK YER",
  "A652bCAPITAL LETTER IOTIFIED YATbSMALL LETTER IOTIFIED YATbCAPITAL LETTER REVERSED YU",
  "A655bSMALL LETTER REVERSED YUbCAPITAL LETTER IOTIFIED AbSMALL LETTER IOTIFIED A",
  "A658bCAPITAL LETTER CLOSED LITTLE YUSbSMALL LETTER CLOSED LITTLE YUS",
  "A65AbCAPITAL LETTER BLENDED YUSbSMALL LETTER BLENDED YUS",
  "A65CbCAPITAL LETTER IOTIFIED CLOSED LITTLE YUSbSMALL LETTER IOTIFIED CLOSED LITTLE YUS",
  "A65EbCAPITAL LETTER YNbSMALL LETTER YNbCAPITAL LETTER REVERSED TSEbSMALL LETTER REVERSED TSE",
  "A662bCAPITAL LETTER SOFT DEbSMALL LETTER SOFT DEbCAPITAL LETTER SOFT ELbSMALL LETTER SOFT EL",
  "A666bCAPITAL LETTER SOFT EMbSMALL LETTER SOFT EMbCAPITAL LETTER MONOCULAR O",
  "A669bSMALL LETTER MONOCULAR ObCAPITAL LETTER BINOCULAR ObSMALL LETTER BINOCULAR O",
  "A66CbCAPITAL LETTER DOUBLE MONOCULAR ObSMALL LETTER DOUBLE MONOCULAR ObLETTER MULTIOCULAR O",
  "A66FaCOMBINING CYRILLIC VZMETcTEN MILLIONS SIGNcHUNDRED MILLIONS SIGNcTHOUSAND MILLIONS SIGN",
  "A673aSLAVONIC ASTERISKaCOMBINING CYRILLIC LETTER UKRAINIAN IEdIdYIdUdHARD SIGNdYERU",
  "A67AdSOFT SIGNdOMEGAcKAVYKAcPAYEROKaCYRILLIC KAVYKAbPAYEROKbCAPITAL LETTER DWE",
  "A681bSMALL LETTER DWEbCAPITAL LETTER DZWEbSMALL LETTER DZWEbCAPITAL LETTER ZHWE",
  "A685bSMALL LETTER ZHWEbCAPITAL LETTER CCHEbSMALL LETTER CCHEbCAPITAL LETTER DZZE",
  "A689bSMALL LETTER DZZEbCAPITAL LETTER TE WITH MIDDLE HOOKbSMALL LETTER TE WITH MIDDLE HOOK",
  "A68CbCAPITAL LETTER TWEbSMALL LETTER TWEbCAPITAL LETTER TSWEbSMALL LETTER TSWE",
  "A690bCAPITAL LETTER TSSEbSMALL LETTER TSSEbCAPITAL LETTER TCHEbSMALL LETTER TCHE",
  "A694bCAPITAL LETTER HWEbSMALL LETTER HWEbCAPITAL LETTER SHWEbSMALL LETTER SHWE",
  "A698bCAPITAL LETTER DOUBLE ObSMALL LETTER DOUBLE ObCAPITAL LETTER CROSSED O",
  "A69BbSMALL LETTER CROSSED OaMODIFIER LETTER CYRILLIC HARD SIGNdSOFT SIGN",
  "A69EaCOMBINING CYRILLIC LETTER EFdIOTIFIED EaBAMUM LETTER AcKAcUcKUcEEcREEcTAEcOcNYIcIcLAcPA",
  "A6ACcRIIcRIEEcLEEEEcMEEEEcTAAcNDAAcNJAEMcMcSUUcMUcSHIIcSIcSHEUXcSEUXcKYEEcKETcNUAEcNUcNJUAE",
  "A6BFcYOQcSHUcYUQcYAcNSHAcKEUXcPEUXcNJEEcNTEEcPUEcWUEcPEEcFEEcRUcLUcMIcNIcREUXcRAEcKEN",
  "A6D3cNGKWAENcNGGAcNGAcSHOcPUAEcFUcFOMcWAcNAcLIcPIcLOQcKOcMBENcRENcMENcMAcTIcKIcMOcMBAAcTET",
  "A6E9cKPAcTENcNTUUcSAMBAcFAAMAEcKOVUUcKOGHOMbCOMBINING MARK KOQNDONdTUKWENTISbNJAEMLI",
  "A6F3bFULL STOPbCOLONbCOMMAbSEMICOLONbQUESTION MARK",
  "A700aMODIFIER LETTER CHINESE TONE YIN PINGeYANG PINGeYIN SHANGeYANG SHANGeYIN QUeYANG QU",
  "A706eYIN RUeYANG RUcEXTRA-HIGH DOTTED TONE BARcHIGH DOTTED TONE BARcMID DOTTED TONE BAR",
  "A70BcLOW DOTTED TONE BARcEXTRA-LOW DOTTED TONE BARcEXTRA-HIGH DOTTED LEFT-STEM TONE BAR",
  "A70EcHIGH DOTTED LEFT-STEM TONE BARcMID DOTTED LEFT-STEM TONE BAR",
  "A710cLOW DOTTED LEFT-STEM TONE BARcEXTRA-LOW DOTTED LEFT-STEM TONE BAR",
  "A712cEXTRA-HIGH LEFT-STEM TONE BARcHIGH LEFT-STEM TONE BARcMID LEFT-STEM TONE BAR",
  "A715cLOW LEFT-STEM TONE BARcEXTRA-LOW LEFT-STEM TONE BARcDOT VERTICAL BARdSLASH",
  "A719dHORIZONTAL BARcLOWER RIGHT CORNER ANGLEcRAISED UP ARROWdDOWN ARROWdEXCLAMATION MARK",
  "A71EdINVERTED EXCLAMATION MARKcLOW INVERTED EXCLAMATION MARKcSTRESS AND HIGH TONEeLOW TONE",
  "A722aLATIN CAPITAL LETTER EGYPTOLOGICAL ALEFbSMALL LETTER EGYPTOLOGICAL ALEF",
  "A724bCAPITAL LETTER EGYPTOLOGICAL AINbSMALL LETTER EGYPTOLOGICAL AINbCAPITAL LETTER HENG",
  "A727bSMALL LETTER HENGbCAPITAL LETTER TZbSMALL LETTER TZbCAPITAL LETTER TRESILLO",
  "A72BbSMALL LETTER TRESILLObCAPITAL LETTER CUATRILLObSMALL LETTER CUATRILLO",
  "A72EbCAPITAL LETTER CUATRILLO WITH COMMAbSMALL LETTER CUATRILLO WITH COMMA",
  "A730bLETTER SMALL CAPITAL FeSbCAPITAL LETTER AAbSMALL LETTER AAbCAPITAL LETTER AO",
  "A735bSMALL LETTER AObCAPITAL LETTER AUbSMALL LETTER AUbCAPITAL LETTER AVbSMALL LETTER AV",
  "A73AbCAPITAL LETTER AV WITH HORIZONTAL BARbSMALL LETTER AV WITH HORIZONTAL BAR",
  "A73CbCAPITAL LETTER AYbSMALL LETTER AYbCAPITAL LETTER REVERSED C WITH DOT",
  "A73FbSMALL LETTER REVERSED C WITH DOTbCAPITAL LETTER K WITH STROKE",
  "A741bSMALL LETTER K WITH STROKEbCAPITAL LETTER K WITH DIAGONAL STROKE",
  "A743bSMALL LETTER K WITH DIAGONAL STROKEbCAPITAL LETTER K WITH STROKE AND DIAGONAL STROKE",
  "A745bSMALL LETTER K WITH STROKE AND DIAGONAL STROKEbCAPITAL LETTER BROKEN L",
  "A747bSMALL LETTER BROKEN LbCAPITAL LETTER L WITH HIGH STROKEbSMALL LETTER L WITH HIGH STROKE",
  "A74AbCAPITAL LETTER O WITH LONG STROKE OVERLAYbSMALL LETTER O WITH LONG STROKE OVERLAY",
  "A74CbCAPITAL LETTER O WITH LOOPbSMALL LETTER O WITH LOOPbCAPITAL LETTER OObSMALL LETTER OO",
  "A750bCAPITAL LETTER P WITH STROKE THROUGH DESCENDER",
  "A751bSMALL LETTER P WITH STROKE THROUGH DESCENDERbCAPITAL LETTER P WITH FLOURISH",
  "A753bSMALL LETTER P WITH FLOURISHbCAPITAL LETTER P WITH SQUIRREL TAIL",
  "A755bSMALL LETTER P WITH SQUIRREL TAILbCAPITAL LETTER Q WITH STROKE THROUGH DESCENDER",
  "A757bSMALL LETTER Q WITH STROKE THROUGH DESCENDERbCAPITAL LETTER Q WITH DIAGONAL STROKE",
  "A759bSMALL LETTER Q WITH DIAGONAL STROKEbCAPITAL LETTER R ROTUNDAbSMALL LETTER R ROTUNDA",
  "A75CbCAPITAL LETTER RUM ROTUNDAbSMALL LETTER RUM ROTUNDA",
  "A75EbCAPITAL LETTER V WITH DIAGONAL STROKEbSMALL LETTER V WITH DIAGONAL STROKE",
  "A760bCAPITAL LETTER VYbSMALL LETTER VYbCAPITAL LETTER VISIGOTHIC ZbSMALL LETTER VISIGOTHIC Z",
  "A764bCAPITAL LETTER THORN WITH STROKEbSMALL LETTER THORN WITH STROKE",
  "A766bCAPITAL LETTER THORN WITH STROKE THROUGH DESCENDER",
  "A767bSMALL LETTER THORN WITH STROKE THROUGH DESCENDERbCAPITAL LETTER VENDbSMALL LETTER VEND",
  "A76AbCAPITAL LETTER ETbSMALL LETTER ETbCAPITAL LETTER ISbSMALL LETTER ISbCAPITAL LETTER CON",
  "A76FbSMALL LETTER CONaMODIFIER LETTER USaLATIN SMALL LETTER DUMdLUMdMUMdNUMdRUM",
  "A776bLETTER SMALL CAPITAL RUMbSMALL LETTER TUMdUMbCAPITAL LETTER INSULAR D",
  "A77AbSMALL LETTER INSULAR DbCAPITAL LETTER INSULAR FbSMALL LETTER INSULAR F",
  "A77DbCAPITAL LETTER INSULAR GdTURNED INSULAR GbSMALL LETTER TURNED INSULAR G",
  "A780bCAPITAL LETTER TURNED LbSMALL LETTER TURNED LbCAPITAL LETTER INSULAR R",
  "A783bSMALL LETTER INSULAR RbCAPITAL LETTER INSULAR SbSMALL LETTER INSULAR S",
  "A786bCAPITAL LETTER INSULAR TbSMALL LETTER INSULAR TaMODIFIER LETTER LOW CIRCUMFLEX ACCENT",
  "A789cCOLONcSHORT EQUALS SIGNaLATIN CAPITAL LETTER SALTILLObSMALL LETTER SALTILLO",
  "A78DbCAPITAL LETTER TURNED HbSMALL LETTER L WITH RETROFLEX HOOK AND BELT",
  "A78FbLETTER SINOLOGICAL DOTbCAPITAL LETTER N WITH DESCENDERbSMALL LETTER N WITH DESCENDER",
  "A792bCAPITAL LETTER C WITH BARbSMALL LETTER C WITH BARfPALATAL HOOKdH WITH PALATAL HOOK",
  "A796bCAPITAL LETTER B WITH FLOURISHbSMALL LETTER B WITH FLOURISH",
  "A798bCAPITAL LETTER F WITH STROKEbSMALL LETTER F WITH STROKEbCAPITAL LETTER VOLAPUK AE",
  "A79BbSMALL LETTER VOLAPUK AEbCAPITAL LETTER VOLAPUK OEbSMALL LETTER VOLAPUK OE",
  "A79EbCAPITAL LETTER VOLAPUK UEbSMALL LETTER VOLAPUK UEbCAPITAL LETTER G WITH OBLIQUE STROKE",
  "A7A1bSMALL LETTER G WITH OBLIQUE STROKEbCAPITAL LETTER K WITH OBLIQUE STROKE",
  "A7A3bSMALL LETTER K WITH OBLIQUE STROKEbCAPITAL LETTER N WITH OBLIQUE STROKE",
  "A7A5bSMALL LETTER N WITH OBLIQUE STROKEbCAPITAL LETTER R WITH OBLIQUE STROKE",
  "A7A7bSMALL LETTER R WITH OBLIQUE STROKEbCAPITAL LETTER S WITH OBLIQUE STROKE",
  "A7A9bSMALL LETTER S WITH OBLIQUE STROKEbCAPITAL LETTER H WITH HOOKdREVERSED OPEN EdSCRIPT G",
  "A7ADdL WITH BELTdSMALL CAPITAL IbLETTER SMALL CAPITAL QbCAPITAL LETTER TURNED KeT",
  "A7B2dJ WITH CROSSED-TAILdCHIdBETAbSMALL LETTER BETAbCAPITAL LETTER OMEGAbSMALL LETTER OMEGA",
  "A7B8bCAPITAL LETTER U WITH STROKEbSMALL LETTER U WITH STROKEbCAPITAL LETTER GLOTTAL A",
  "A7BBbSMALL LETTER GLOTTAL AbCAPITAL LETTER GLOTTAL IbSMALL LETTER GLOTTAL I",
  "A7BEbCAPITAL LETTER GLOTTAL UbSMALL LETTER GLOTTAL UbCAPITAL LETTER OLD POLISH O",
  "A7C1bSMALL LETTER OLD POLISH ObCAPITAL LETTER ANGLICANA WbSMALL LETTER ANGLICANA W",
  "A7C4bCAPITAL LETTER C WITH PALATAL HOOKdS WITH HOOKdZ WITH PALATAL HOOK",
  "A7C7dD WITH SHORT STROKE OVERLAYbSMALL LETTER D WITH SHORT STROKE OVERLAY",
  "A7C9bCAPITAL LETTER S WITH SHORT STROKE OVERLAYbSMALL LETTER S WITH SHORT STROKE OVERLAY",
  "A7D0bCAPITAL LETTER CLOSED INSULAR GbSMALL LETTER CLOSED INSULAR G",
  "A7D3dDOUBLE THORN",
  "A7D5eWYNNbCAPITAL LETTER MIDDLE SCOTS SbSMALL LETTER MIDDLE SCOTS SbCAPITAL LETTER SIGMOID S",
  "A7D9bSMALL LETTER SIGMOID S",
  "A7F2aMODIFIER LETTER CAPITAL CdFdQaLATIN CAPITAL LETTER REVERSED HALF H",
  "A7F6bSMALL LETTER REVERSED HALF HbEPIGRAPHIC LETTER SIDEWAYS I",
  "A7F8aMODIFIER LETTER CAPITAL H WITH STROKEcSMALL LIGATURE OE",
  "A7FAaLATIN LETTER SMALL CAPITAL TURNED MbEPIGRAPHIC LETTER REVERSED FePdINVERTED MdI LONGA",
  "A7FFdARCHAIC MaSYLOTI NAGRI LETTER AdIcSIGN DVISVARAcLETTER UdEdOcSIGN HASANTAcLETTER KOdKHO",
  "A809dGOdGHOcSIGN ANUSVARAcLETTER COdCHOdJOdJHOdTTOdTTHOdDDOdDDHOdTOdTHOdDOdDHOdNOdPOdPHOdBO",
  "A81CdBHOdMOdROdLOdRROdSOdHOcVOWEL SIGN AeIeUeEeOOcPOETRY MARK-1dMARK-2dMARK-3dMARK-4",
  "A82CcSIGN ALTERNATE HASANTA",
  "A830aNORTH INDIC FRACTION ONE QUARTEReHALFdTHREE QUARTERSdONE SIXTEENTHeEIGHTH",
  "A835dTHREE SIXTEENTHScQUARTER MARKcPLACEHOLDER MARKcRUPEE MARKcQUANTITY MARK",
  "A840aPHAGS-PA LETTER KAcKHAcGAcNGAcCAcCHAcJAcNYAcTAcTHAcDAcNAcPAcPHAcBAcMAcTSAcTSHAcDZAcWA",
  "A854cZHAcZAcSMALL AcYAcRAcLAcSHAcSAcHAcAcIcUcEcOcQAcXAcFAcGGAcEEbSUBJOINED LETTER WAdYA",
  "A869bLETTER TTAcTTHAcDDAcNNAcALTERNATE YAcVOICELESS SHAcVOICED HAcASPIRATED FA",
  "A871bSUBJOINED LETTER RAbSUPERFIXED LETTER RAbLETTER CANDRABINDUbSINGLE HEAD MARK",
  "A875bDOUBLE HEAD MARKbMARK SHADcDOUBLE SHAD",
  "A880aSAURASHTRA SIGN ANUSVARAcVISARGAbLETTER AcAAcIcIIcUcUUcVOCALIC RdRRdLdLLcEcEEcAIcOcOO",
  "A891cAUcKAcKHAcGAcGHAcNGAcCAcCHAcJAcJHAcNYAcTTAcTTHAcDDAcDDHAcNNAcTAcTHAcDAcDHAcNAcPAcPHAcBA",
  "A8A9cBHAcMAcYAcRAcLAcVAcSHAcSSAcSAcHAcLLAbCONSONANT SIGN HAARUbVOWEL SIGN AAdIdIIdUdUU",
  "A8BAdVOCALIC ReRReLeLLdEdEEdAIdOdOOdAUbSIGN VIRAMAcCANDRABINDU",
  "A8CEbDANDAbDOUBLE DANDAbDIGIT ZEROcONEcTWOcTHREEcFOURcFIVEcSIXcSEVENcEIGHTcNINE",
  "A8E0aCOMBINING DEVANAGARI DIGIT ZEROdONEdTWOdTHREEdFOURdFIVEdSIXdSEVENdEIGHTdNINEcLETTER AdU",
  "A8ECdKAdNAdPAdRAdVIcSIGN AVAGRAHAaDEVANAGARI SIGN SPACING CANDRABINDUcCANDRABINDU VIRAMA",
  "A8F4cDOUBLE CANDRABINDU VIRAMAcCANDRABINDU TWOdTHREEdAVAGRAHAcPUSHPIKAbGAP FILLERbCARET",
  "A8FBbHEADSTROKEbSIGN SIDDHAMbJAIN OMbLETTER AYbVOWEL SIGN AYaKAYAH LI DIGIT ZEROdONEdTWO",
  "A903dTHREEdFOURdFIVEdSIXdSEVENdEIGHTdNINEcLETTER KAdKHAdGAdNGAdSAdSHAdZAdNYAdTAdHTAdNAdPA",
  "A916dPHAdMAdDAdBAdRAdYAdLAdWAdTHAdHAdVAdCAdAdOEdIdOOcVOWEL UEdEdUdEEdOcTONE PLOPHUdCALYA",
  "A92DePLOPHUcSIGN CWIdSHYAaREJANG LETTER KAcGAcNGAcTAcDAcNAcPAcBAcMAcCAcJAcNYAcSAcRAcLAcYAcWA",
  "A941cHAcMBAcNGGAcNDAcNYJAcAbVOWEL SIGN IdUdEdAIdOdAUdEUdEAbCONSONANT SIGN NGdNdRdHbVIRAMA",
  "A95FbSECTION MARKaHANGUL CHOSEONG TIKEUT-MIEUMcTIKEUT-PIEUPcTIKEUT-SIOScTIKEUT-CIEUC",
  "A964cRIEUL-KIYEOKcRIEUL-SSANGKIYEOKcRIEUL-TIKEUTcRIEUL-SSANGTIKEUTcRIEUL-MIEUMcRIEUL-PIEUP",
  "A96AcRIEUL-SSANGPIEUPcRIEUL-KAPYEOUNPIEUPcRIEUL-SIOScRIEUL-CIEUCcRIEUL-KHIEUKHcMIEUM-KIYEOK",
  "A970cMIEUM-TIKEUTcMIEUM-SIOScPIEUP-SIOS-THIEUTHcPIEUP-KHIEUKHcPIEUP-HIEUHcSSANGSIOS-PIEUP",
  "A976cIEUNG-RIEULcIEUNG-HIEUHcSSANGCIEUC-HIEUHcSSANGTHIEUTHcPHIEUPH-HIEUHcHIEUH-SIOS",
  "A97CcSSANGYEORINHIEUH",
  "A980aJAVANESE SIGN PANYANGGAcCECAKcLAYARcWIGNYANbLETTER AcI KAWIdcIIcUcPA CEREKcNGA LELET",
  "A98BeRASWADIcEcAIcOcKAdSASAKdMURDAcGAdMURDAcNGAcCAdMURDAcJAcNYA MURDAcJA MAHAPRANAcNYAcTTA",
  "A99CdMAHAPRANAcDDAdMAHAPRANAcNA MURDAcTAdMURDAcDAdMAHAPRANAcNAcPAdMURDAcBAdMURDAcMAcYAcRA",
  "A9ACdAGUNGcLAcWAcSA MURDAdMAHAPRANAdcHAbSIGN CECAK TELUbVOWEL SIGN TARUNGdTOLONGdWULUeMELIK",
  "A9B8dSUKUeMENDUTdTALINGdDIRGA MUREdPEPETbCONSONANT SIGN KERETdPENGKALdCAKRAbPANGKON",
  "A9C1bLEFT RERENGGANbRIGHT RERENGGANbPADA ANDAPcMADYAcLUHURcWINDUcPANGKATcLINGSAcLUNGSIcADEG",
  "A9CBdADEGcPISELEHbTURNED PADA PISELEH",
  "A9CFbPANGRANGKEPbDIGIT ZEROcONEcTWOcTHREEcFOURcFIVEcSIXcSEVENcEIGHTcNINE",
  "A9DEbPADA TIRTA TUMETEScISEN-ISENaMYANMAR LETTER SHAN GHAdCHAdJHAdNNAdBHAbSIGN SHAN SAW",
  "A9E6bMODIFIER LETTER SHAN REDUPLICATIONbLETTER TAI LAING NYAeFAeGAeGHAeJAeJHAeDDAeDDHAeNNA",
  "A9F0bTAI LAING DIGIT ZEROeONEeTWOeTHREEeFOUReFIVEeSIXeSEVENeEIGHTeNINEbLETTER TAI LAING LLA",
  "A9FBeDAeDHAeBAeBHA",
  "AA00aCHAM LETTER AcIcUcEcAIcOcKAcKHAcGAcGHAcNGUEcNGAcCHAcCHHAcJAcJHAcNHUEcNHAcNHJAcTAcTHAcDA",
  "AA16cDHAcNUEcNAcDDAcPAcPPAcPHAcBAcBHAcMUEcMAcBBAcYAcRAcLAcVAcSSAcSAcHAbVOWEL SIGN AAdIdIIdEI",
  "AA2DdUdOEdOdAIdAUdUEbCONSONANT SIGN YAdRAdLAdWA",
  "AA40bLETTER FINAL KdGdNGbCONSONANT SIGN FINAL NGbLETTER FINAL CHdTdNdPdYdRdLdSS",
  "AA4CbCONSONANT SIGN FINAL MeH",
  "AA50bDIGIT ZEROcONEcTWOcTHREEcFOURcFIVEcSIXcSEVENcEIGHTcNINE",
  "AA5CbPUNCTUATION SPIRALcDANDAcDOUBLE DANDAcTRIPLE DANDAaMYANMAR LETTER KHAMTI GAdCAdCHAdJA",
  "AA64dJHAdNYAdTTAdTTHAdDDAdDDHAdDHAdNAdSAdHAdHHAdFAbMODIFIER LETTER KHAMTI REDUPLICATION",
  "AA71bLETTER KHAMTI XAdZAdRAbLOGOGRAM KHAMTI OAYdQNdHMbSYMBOL AITON EXCLAMATIONdONEdTWO",
  "AA7AbLETTER AITON RAbSIGN PAO KAREN TONEcTAI LAING TONE-2eTONE-5bLETTER SHWE PALAUNG CHAeSHA",
  "AA80aTAI VIET LETTER LOW KOdHIGH KOdLOW KHOdHIGH KHOdLOW KHHOdHIGH KHHOdLOW GOdHIGH GO",
  "AA88dLOW NGOdHIGH NGOdLOW COdHIGH COdLOW CHOdHIGH CHOdLOW SOdHIGH SOdLOW NYOdHIGH NYOdLOW DO",
  "AA93dHIGH DOdLOW TOdHIGH TOdLOW THOdHIGH THOdLOW NOdHIGH NOdLOW BOdHIGH BOdLOW POdHIGH PO",
  "AA9EdLOW PHOdHIGH PHOdLOW FOdHIGH FOdLOW MOdHIGH MOdLOW YOdHIGH YOdLOW ROdHIGH ROdLOW LO",
  "AAA9dHIGH LOdLOW VOdHIGH VOdLOW HOdHIGH HOdLOW OdHIGH OcMAI KANGcVOWEL AAdIdUEdUdEdO",
  "AAB7cMAI KHITcVOWEL IAdUEAdUAdAUEdAYdANdAMcTONE MAI EKeNUENGeTHOeSONG",
  "AADBcSYMBOL KONdNUENGdSAMdHO HOIdKOI KOIaMEETEI MAYEK LETTER EdOdCHAdNYAdTTAdTTHAdDDAdDDHA",
  "AAE8dNNAdSHAdSSAcVOWEL SIGN IIeUUeAAIeAUeAAUcCHEIKHANcAHANG KHUDAMcANJI",
  "AAF3cSYLLABLE REPETITION MARKcWORD REPETITION MARKcVOWEL SIGN VISARGAcVIRAMA",
  "AB01aETHIOPIC SYLLABLE TTHUcTTHIcTTHAAcTTHEEcTTHEcTTHO",
  "AB09cDDHUcDDHIcDDHAAcDDHEEcDDHEcDDHO",
  "AB11cDZUcDZIcDZAAcDZEEcDZEcDZO",
  "AB20cCCHHAcCCHHUcCCHHIcCCHHAAcCCHHEEcCCHHEcCCHHO",
  "AB28cBBAcBBUcBBIcBBAAcBBEEcBBEcBBO",
  "AB30aLATIN SMALL LETTER BARRED ALPHAdA REVERSED-SCHWAdBLACKLETTER EdBARRED EdE WITH FLOURISH",
  "AB35dLENIS FdSCRIPT G WITH CROSSED-TAILdL WITH INVERTED LAZY SfDOUBLE MIDDLE TILDE",
  "AB39fMIDDLE RINGdM WITH CROSSED-TAILdN WITH CROSSED-TAILdENG WITH CROSSED-TAILdBLACKLETTER O",
  "AB3EfWITH STROKEdOPEN O WITH STROKEdINVERTED OEdTURNED OE WITH STROKEgHORIZONTAL STROKE",
  "AB43eO OPEN-OgWITH STROKEdSTIRRUP RbLETTER SMALL CAPITAL R WITH RIGHT LEG",
  "AB47bSMALL LETTER R WITHOUT HANDLEdDOUBLE RdR WITH CROSSED-TAILdDOUBLE R WITH CROSSED-TAIL",
  "AB4BdSCRIPT RfWITH RINGdBASELINE ESHdU WITH SHORT RIGHT LEGeBAR WITH SHORT RIGHT LEGdUI",
  "AB51dTURNED UIdU WITH LEFT HOOKdCHIeWITH LOW RIGHT RINGgLEFT SERIFdX WITH LOW RIGHT RING",
  "AB57fLONG LEFT LEGiAND LOW RIGHT RINGiWITH SERIFdY WITH SHORT RIGHT LEG",
  "AB5BaMODIFIER BREVE WITH INVERTED BREVEbLETTER SMALL HENGdL WITH INVERTED LAZY S",
  "AB5EfMIDDLE TILDEdU WITH LEFT HOOKaLATIN SMALL LETTER SAKHA YATdIOTIFIED EdOPEN OEdUO",
  "AB64dINVERTED ALPHAaGREEK LETTER SMALL CAPITAL OMEGA",
  "AB66aLATIN SMALL LETTER DZ DIGRAPH WITH RETROFLEX HOOKdTS DIGRAPH WITH RETROFLEX HOOK",
  "AB68dTURNED R WITH MIDDLE TILDEaMODIFIER LETTER SMALL TURNED WcLEFT TACKcRIGHT TACK",
  "AB70aCHEROKEE SMALL LETTER AdEdIdOdUdVdGAdKAdGEdGIdGOdGUdGVdHAdHEdHIdHOdHUdHVdLAdLEdLIdLOdLU",
  "AB88dLVdMAdMEdMIdMOdMUdNAdHNAdNAHdNEdNIdNOdNUdNVdQUAdQUEdQUIdQUOdQUUdQUVdSAdSdSEdSIdSOdSUdSV",
  "ABA3dDAdTAdDEdTEdDIdTIdDOdDUdDVdDLAdTLAdTLEdTLIdTLOdTLUdTLVdTSAdTSEdTSIdTSOdTSUdTSVdWAdWEdWI",
  "ABBCdWOdWUdWVdYAaMEETEI MAYEK LETTER KOKdSAMdLAIdMITdPAdNAdCHILdTILdKHOUdNGOUdTHOUdWAIdYANG",
  "ABCDdHUKdUNdIdPHAMdATIYAdGOKdJHAMdRAIdBAdJILdDILdGHOUdDHOUdBHAMdKOK LONSUMdLAI LONSUM",
  "ABDDdMIT LONSUMdPA LONSUMdNA LONSUMdTIL LONSUMdNGOU LONSUMdI LONSUMcVOWEL SIGN ONAPeINAP",
  "ABE5eANAPeYENAPeSOUNAPeUNAPeCHEINAPeNUNGcCHEIKHEIcLUM IYEKcAPUN IYEK",
  "ABF0cDIGIT ZEROdONEdTWOdTHREEdFOURdFIVEdSIXdSEVENdEIGHTdNINE",
  "D7B0aHANGUL JUNGSEONG O-YEOcO-O-IcYO-AcYO-AEcYO-EOcU-YEOcU-I-IcYU-AEcYU-OcEU-AcEU-EOcEU-E",
  "D7BCcEU-OcI-YA-OcI-YAEcI-YEOcI-YEcI-O-IcI-YOcI-YUcI-IcARAEA-AcARAEA-E",
  "D7CBbJONGSEONG NIEUN-RIEULcNIEUN-CHIEUCHcSSANGTIKEUTcSSANGTIKEUT-PIEUPcTIKEUT-PIEUP",
  "D7D0cTIKEUT-SIOScTIKEUT-SIOS-KIYEOKcTIKEUT-CIEUCcTIKEUT-CHIEUCHcTIKEUT-THIEUTH",
  "D7D5cRIEUL-SSANGKIYEOKcRIEUL-KIYEOK-HIEUHcSSANGRIEUL-KHIEUKHcRIEUL-MIEUM-HIEUH",
  "D7D9cRIEUL-PIEUP-TIKEUTcRIEUL-PIEUP-PHIEUPHcRIEUL-YESIEUNGcRIEUL-YEORINHIEUH-HIEUH",
  "D7DDcKAPYEOUNRIEULcMIEUM-NIEUNcMIEUM-SSANGNIEUNcSSANGMIEUMcMIEUM-PIEUP-SIOScMIEUM-CIEUC",
  "D7E3cPIEUP-TIKEUTcPIEUP-RIEUL-PHIEUPHcPIEUP-MIEUMcSSANGPIEUPcPIEUP-SIOS-TIKEUTcPIEUP-CIEUC",
  "D7E9cPIEUP-CHIEUCHcSIOS-MIEUMcSIOS-KAPYEOUNPIEUPcSSANGSIOS-KIYEOKcSSANGSIOS-TIKEUT",
  "D7EEcSIOS-PANSIOScSIOS-CIEUCcSIOS-CHIEUCHcSIOS-THIEUTHcSIOS-HIEUHcPANSIOS-PIEUP",
  "D7F4cPANSIOS-KAPYEOUNPIEUPcYESIEUNG-MIEUMcYESIEUNG-HIEUHcCIEUC-PIEUPcCIEUC-SSANGPIEUP",
  "D7F9cSSANGCIEUCcPHIEUPH-SIOScPHIEUPH-THIEUTH",
  "FB00aLATIN SMALL LIGATURE FFdFIdFLdFFIdFFLdLONG S TdST",
  "FB13aARMENIAN SMALL LIGATURE MEN NOWeECHeINIdVEW NOWdMEN XEH",
  "FB1DaHEBREW LETTER YOD WITH HIRIQbPOINT JUDEO-SPANISH VARIKAbLIGATURE YIDDISH YOD YOD PATAH",
  "FB20bLETTER ALTERNATIVE AYINcWIDE ALEFdDALETdHEdKAFdLAMEDdFINAL MEMdRESHdTAV",
  "FB29cALTERNATIVE PLUS SIGNcSHIN WITH SHIN DOTeSIN DOTeDAGESH AND SHIN DOTgSIN DOT",
  "FB2EcALEF WITH PATAHeQAMATSeMAPIQcBET WITH DAGESHcGIMEL WITH DAGESHcDALET WITH DAGESH",
  "FB34cHE WITH MAPIQcVAV WITH DAGESHcZAYIN WITH DAGESH",
  "FB38cTET WITH DAGESHcYOD WITH DAGESHcFINAL KAF WITH DAGESHcKAF WITH DAGESHcLAMED WITH DAGESH",
  "FB3EcMEM WITH DAGESH",
  "FB40cNUN WITH DAGESHcSAMEKH WITH DAGESH",
  "FB43cFINAL PE WITH DAGESHcPE WITH DAGESH",
  "FB46cTSADI WITH DAGESHcQOF WITH DAGESHcRESH WITH DAGESHcSHIN WITH DAGESHcTAV WITH DAGESH",
  "FB4BcVAV WITH HOLAMcBET WITH RAFEcKAF WITH RAFEcPE WITH RAFEbLIGATURE ALEF LAMED",
  "FB50aARABIC LETTER ALEF WASLA ISOLATED FORMeFINAL FORMcBEEH ISOLATED FORMdFINAL FORM",
  "FB54dINITIAL FORMdMEDIAL FORMcPEH ISOLATED FORMdFINAL FORMdINITIAL FORMdMEDIAL FORM",
  "FB5AcBEHEH ISOLATED FORMdFINAL FORMdINITIAL FORMdMEDIAL FORMcTTEHEH ISOLATED FORMdFINAL FORM",
  "FB60dINITIAL FORMdMEDIAL FORMcTEHEH ISOLATED FORMdFINAL FORMdINITIAL FORMdMEDIAL FORM",
  "FB66cTTEH ISOLATED FORMdFINAL FORMdINITIAL FORMdMEDIAL FORMcVEH ISOLATED FORMdFINAL FORM",
  "FB6CdINITIAL FORMdMEDIAL FORMcPEHEH ISOLATED FORMdFINAL FORMdINITIAL FORMdMEDIAL FORM",
  "FB72cDYEH ISOLATED FORMdFINAL FORMdINITIAL FORMdMEDIAL FORMcNYEH ISOLATED FORMdFINAL FORM",
  "FB78dINITIAL FORMdMEDIAL FORMcTCHEH ISOLATED FORMdFINAL FORMdINITIAL FORMdMEDIAL FORM",
  "FB7EcTCHEHEH ISOLATED FORMdFINAL FORMdINITIAL FORMdMEDIAL FORMcDDAHAL ISOLATED FORM",
  "FB83dFINAL FORMcDAHAL ISOLATED FORMdFINAL FORMcDUL ISOLATED FORMdFINAL FORM",
  "FB88cDDAL ISOLATED FORMdFINAL FORMcJEH ISOLATED FORMdFINAL FORMcRREH ISOLATED FORM",
  "FB8DdFINAL FORMcKEHEH ISOLATED FORMdFINAL FORMdINITIAL FORMdMEDIAL FORMcGAF ISOLATED FORM",
  "FB93dFINAL FORMdINITIAL FORMdMEDIAL FORMcGUEH ISOLATED FORMdFINAL FORMdINITIAL FORM",
  "FB99dMEDIAL FORMcNGOEH ISOLATED FORMdFINAL FORMdINITIAL FORMdMEDIAL FORM",
  "FB9EcNOON GHUNNA ISOLATED FORMeFINAL FORMcRNOON ISOLATED FORMdFINAL FORMdINITIAL FORM",
  "FBA3dMEDIAL FORMcHEH WITH YEH ABOVE ISOLATED FORMgFINAL FORMdGOAL ISOLATED FORMeFINAL FORM",
  "FBA8eINITIAL FORMeMEDIAL FORMdDOACHASHMEE ISOLATED FORMeFINAL FORMeINITIAL FORMeMEDIAL FORM",
  "FBAEcYEH BARREE ISOLATED FORMeFINAL FORMeWITH HAMZA ABOVE ISOLATED FORMhFINAL FORM",
  "FBB2bSYMBOL DOT ABOVEdBELOWcTWO DOTS ABOVEeBELOWcTHREE DOTS ABOVEeBELOW",
  "FBB8ePOINTING DOWNWARDS ABOVEgBELOWcFOUR DOTS ABOVEeBELOWcDOUBLE VERTICAL BAR BELOW",
  "FBBDcTWO DOTS VERTICALLY ABOVEfBELOWcRINGcSMALL TAH ABOVEeBELOWcWASLA ABOVE",
  "FBD3bLETTER NG ISOLATED FORMdFINAL FORMdINITIAL FORMdMEDIAL FORMcU ISOLATED FORMdFINAL FORM",
  "FBD9cOE ISOLATED FORMdFINAL FORMcYU ISOLATED FORMdFINAL FORM",
  "FBDDcU WITH HAMZA ABOVE ISOLATED FORMcVE ISOLATED FORMdFINAL FORMcKIRGHIZ OE ISOLATED FORM",
  "FBE1eFINAL FORMdYU ISOLATED FORMeFINAL FORMcE ISOLATED FORMdFINAL FORMdINITIAL FORM",
  "FBE7dMEDIAL FORMcUIGHUR KAZAKH KIRGHIZ ALEF MAKSURA INITIAL FORMhMEDIAL FORM",
  "FBEAbLIGATURE YEH WITH HAMZA ABOVE WITH ALEF ISOLATED FORMiFINAL FORMhAE ISOLATED FORM",
  "FBEDiFINAL FORMhWAW ISOLATED FORMiFINAL FORMhU ISOLATED FORMiFINAL FORMhOE ISOLATED FORM",
  "FBF3iFINAL FORMhYU ISOLATED FORMiFINAL FORMhE ISOLATED FORMiFINAL FORMiINITIAL FORM",
  "FBF9cUIGHUR KIRGHIZ YEH WITH HAMZA ABOVE WITH ALEF MAKSURA ISOLATED FORMlFINAL FORM",
  "FBFBlINITIAL FORMbLETTER FARSI YEH ISOLATED FORMeFINAL FORMeINITIAL FORMeMEDIAL FORM",
  "FC00bLIGATURE YEH WITH HAMZA ABOVE WITH JEEM ISOLATED FORMhHAH ISOLATED FORM",
  "FC02hMEEM ISOLATED FORMhALEF MAKSURA ISOLATED FORMhYEH ISOLATED FORM",
  "FC05cBEH WITH JEEM ISOLATED FORMeHAH ISOLATED FORMeKHAH ISOLATED FORMeMEEM ISOLATED FORM",
  "FC09eALEF MAKSURA ISOLATED FORMeYEH ISOLATED FORMcTEH WITH JEEM ISOLATED FORM",
  "FC0CeHAH ISOLATED FORMeKHAH ISOLATED FORMeMEEM ISOLATED FORMeALEF MAKSURA ISOLATED FORM",
  "FC10eYEH ISOLATED FORMcTHEH WITH JEEM ISOLATED FORMeMEEM ISOLATED FORM",
  "FC13eALEF MAKSURA ISOLATED FORMeYEH ISOLATED FORMcJEEM WITH HAH ISOLATED FORM",
  "FC16eMEEM ISOLATED FORMcHAH WITH JEEM ISOLATED FORMeMEEM ISOLATED FORM",
  "FC19cKHAH WITH JEEM ISOLATED FORMeHAH ISOLATED FORMeMEEM ISOLATED FORM",
  "FC1CcSEEN WITH JEEM ISOLATED FORMeHAH ISOLATED FORMeKHAH ISOLATED FORMeMEEM ISOLATED FORM",
  "FC20cSAD WITH HAH ISOLATED FORMeMEEM ISOLATED FORMcDAD WITH JEEM ISOLATED FORM",
  "FC23eHAH ISOLATED FORMeKHAH ISOLATED FORMeMEEM ISOLATED FORMcTAH WITH HAH ISOLATED FORM",
  "FC27eMEEM ISOLATED FORMcZAH WITH MEEM ISOLATED FORMcAIN WITH JEEM ISOLATED FORM",
  "FC2AeMEEM ISOLATED FORMcGHAIN WITH JEEM ISOLATED FORMeMEEM ISOLATED FORM",
  "FC2DcFEH WITH JEEM ISOLATED FORMeHAH ISOLATED FORMeKHAH ISOLATED FORMeMEEM ISOLATED FORM",
  "FC31eALEF MAKSURA ISOLATED FORMeYEH ISOLATED FORMcQAF WITH HAH ISOLATED FORM",
  "FC34eMEEM ISOLATED FORMeALEF MAKSURA ISOLATED FORMeYEH ISOLATED FORM",
  "FC37cKAF WITH ALEF ISOLATED FORMeJEEM ISOLATED FORMeHAH ISOLATED FORMeKHAH ISOLATED FORM",
  "FC3BeLAM ISOLATED FORMeMEEM ISOLATED FORMeALEF MAKSURA ISOLATED FORMeYEH ISOLATED FORM",
  "FC3FcLAM WITH JEEM ISOLATED FORMeHAH ISOLATED FORMeKHAH ISOLATED FORMeMEEM ISOLATED FORM",
  "FC43eALEF MAKSURA ISOLATED FORMeYEH ISOLATED FORMcMEEM WITH JEEM ISOLATED FORM",
  "FC46eHAH ISOLATED FORMeKHAH ISOLATED FORMeMEEM ISOLATED FORMeALEF MAKSURA ISOLATED FORM",
  "FC4AeYEH ISOLATED FORMcNOON WITH JEEM ISOLATED FORMeHAH ISOLATED FORMeKHAH ISOLATED FORM",
  "FC4EeMEEM ISOLATED FORMeALEF MAKSURA ISOLATED FORMeYEH ISOLATED FORM",
  "FC51cHEH WITH JEEM ISOLATED FORMeMEEM ISOLATED FORMeALEF MAKSURA ISOLATED FORM",
  "FC54eYEH ISOLATED FORMcYEH WITH JEEM ISOLATED FORMeHAH ISOLATED FORMeKHAH ISOLATED FORM",
  "FC58eMEEM ISOLATED FORMeALEF MAKSURA ISOLATED FORMeYEH ISOLATED FORM",
  "FC5BcTHAL WITH SUPERSCRIPT ALEF ISOLATED FORMcREH WITH SUPERSCRIPT ALEF ISOLATED FORM",
  "FC5DcALEF MAKSURA WITH SUPERSCRIPT ALEF ISOLATED FORMcSHADDA WITH DAMMATAN ISOLATED FORM",
  "FC5FeKASRATAN ISOLATED FORMeFATHA ISOLATED FORMeDAMMA ISOLATED FORMeKASRA ISOLATED FORM",
  "FC63eSUPERSCRIPT ALEF ISOLATED FORMcYEH WITH HAMZA ABOVE WITH REH FINAL FORMhZAIN FINAL FORM",
  "FC66hMEEM FINAL FORMhNOON FINAL FORMhALEF MAKSURA FINAL FORMhYEH FINAL FORM",
  "FC6AcBEH WITH REH FINAL FORMeZAIN FINAL FORMeMEEM FINAL FORMeNOON FINAL FORM",
  "FC6EeALEF MAKSURA FINAL FORMeYEH FINAL FORMcTEH WITH REH FINAL FORMeZAIN FINAL FORM",
  "FC72eMEEM FINAL FORMeNOON FINAL FORMeALEF MAKSURA FINAL FORMeYEH FINAL FORM",
  "FC76cTHEH WITH REH FINAL FORMeZAIN FINAL FORMeMEEM FINAL FORMeNOON FINAL FORM",
  "FC7AeALEF MAKSURA FINAL FORMeYEH FINAL FORMcFEH WITH ALEF MAKSURA FINAL FORMeYEH FINAL FORM",
  "FC7EcQAF WITH ALEF MAKSURA FINAL FORMeYEH FINAL FORMcKAF WITH ALEF FINAL FORMeLAM FINAL FORM",
  "FC82eMEEM FINAL FORMeALEF MAKSURA FINAL FORMeYEH FINAL FORMcLAM WITH MEEM FINAL FORM",
  "FC86eALEF MAKSURA FINAL FORMeYEH FINAL FORMcMEEM WITH ALEF FINAL FORMeMEEM FINAL FORM",
  "FC8AcNOON WITH REH FINAL FORMeZAIN FINAL FORMeMEEM FINAL FORMeNOON FINAL FORM",
  "FC8EeALEF MAKSURA FINAL FORMeYEH FINAL FORMcALEF MAKSURA WITH SUPERSCRIPT ALEF FINAL FORM",
  "FC91cYEH WITH REH FINAL FORMeZAIN FINAL FORMeMEEM FINAL FORMeNOON FINAL FORM",
  "FC95eALEF MAKSURA FINAL FORMeYEH FINAL FORMeHAMZA ABOVE WITH JEEM INITIAL FORM",
  "FC98hHAH INITIAL FORMhKHAH INITIAL FORMhMEEM INITIAL FORMhHEH INITIAL FORM",
  "FC9CcBEH WITH JEEM INITIAL FORMeHAH INITIAL FORMeKHAH INITIAL FORMeMEEM INITIAL FORM",
  "FCA0eHEH INITIAL FORMcTEH WITH JEEM INITIAL FORMeHAH INITIAL FORMeKHAH INITIAL FORM",
  "FCA4eMEEM INITIAL FORMeHEH INITIAL FORMcTHEH WITH MEEM INITIAL FORM",
  "FCA7cJEEM WITH HAH INITIAL FORMeMEEM INITIAL FORMcHAH WITH JEEM INITIAL FORM",
  "FCAAeMEEM INITIAL FORMcKHAH WITH JEEM INITIAL FORMeMEEM INITIAL FORM",
  "FCADcSEEN WITH JEEM INITIAL FORMeHAH INITIAL FORMeKHAH INITIAL FORMeMEEM INITIAL FORM",
  "FCB1cSAD WITH HAH INITIAL FORMeKHAH INITIAL FORMeMEEM INITIAL FORM",
  "FCB4cDAD WITH JEEM INITIAL FORMeHAH INITIAL FORMeKHAH INITIAL FORMeMEEM INITIAL FORM",
  "FCB8cTAH WITH HAH INITIAL FORMcZAH WITH MEEM INITIAL FORMcAIN WITH JEEM INITIAL FORM",
  "FCBBeMEEM INITIAL FORMcGHAIN WITH JEEM INITIAL FORMeMEEM INITIAL FORM",
  "FCBEcFEH WITH JEEM INITIAL FORMeHAH INITIAL FORMeKHAH INITIAL FORMeMEEM INITIAL FORM",
  "FCC2cQAF WITH HAH INITIAL FORMeMEEM INITIAL FORMcKAF WITH JEEM INITIAL FORMeHAH INITIAL FORM",
  "FCC6eKHAH INITIAL FORMeLAM INITIAL FORMeMEEM INITIAL FORMcLAM WITH JEEM INITIAL FORM",
  "FCCAeHAH INITIAL FORMeKHAH INITIAL FORMeMEEM INITIAL FORMeHEH INITIAL FORM",
  "FCCEcMEEM WITH JEEM INITIAL FORMeHAH INITIAL FORMeKHAH INITIAL FORMeMEEM INITIAL FORM",
  "FCD2cNOON WITH JEEM INITIAL FORMeHAH INITIAL FORMeKHAH INITIAL FORMeMEEM INITIAL FORM",
  "FCD6eHEH INITIAL FORMcHEH WITH JEEM INITIAL FORMeMEEM INITIAL FORM",
  "FCD9eSUPERSCRIPT ALEF INITIAL FORMcYEH WITH JEEM INITIAL FORMeHAH INITIAL FORM",
  "FCDCeKHAH INITIAL FORMeMEEM INITIAL FORMeHEH INITIAL FORMeHAMZA ABOVE WITH MEEM MEDIAL FORM",
  "FCE0hHEH MEDIAL FORMcBEH WITH MEEM MEDIAL FORMeHEH MEDIAL FORMcTEH WITH MEEM MEDIAL FORM",
  "FCE4eHEH MEDIAL FORMcTHEH WITH MEEM MEDIAL FORMeHEH MEDIAL FORMcSEEN WITH MEEM MEDIAL FORM",
  "FCE8eHEH MEDIAL FORMcSHEEN WITH MEEM MEDIAL FORMeHEH MEDIAL FORMcKAF WITH LAM MEDIAL FORM",
  "FCECeMEEM MEDIAL FORMcLAM WITH MEEM MEDIAL FORMcNOON WITH MEEM MEDIAL FORMeHEH MEDIAL FORM",
  "FCF0cYEH WITH MEEM MEDIAL FORMeHEH MEDIAL FORMcSHADDA WITH FATHA MEDIAL FORM",
  "FCF3eDAMMA MEDIAL FORMeKASRA MEDIAL FORMcTAH WITH ALEF MAKSURA ISOLATED FORM",
  "FCF6eYEH ISOLATED FORMcAIN WITH ALEF MAKSURA ISOLATED FORMeYEH ISOLATED FORM",
  "FCF9cGHAIN WITH ALEF MAKSURA ISOLATED FORMeYEH ISOLATED FORM",
  "FCFBcSEEN WITH ALEF MAKSURA ISOLATED FORMeYEH ISOLATED FORM",
  "FCFDcSHEEN WITH ALEF MAKSURA ISOLATED FORMeYEH ISOLATED FORM",
  "FCFFcHAH WITH ALEF MAKSURA ISOLATED FORMeYEH ISOLATED FORM",
  "FD01cJEEM WITH ALEF MAKSURA ISOLATED FORMeYEH ISOLATED FORM",
  "FD03cKHAH WITH ALEF MAKSURA ISOLATED FORMeYEH ISOLATED FORM",
  "FD05cSAD WITH ALEF MAKSURA ISOLATED FORMeYEH ISOLATED FORM",
  "FD07cDAD WITH ALEF MAKSURA ISOLATED FORMeYEH ISOLATED FORMcSHEEN WITH JEEM ISOLATED FORM",
  "FD0AeHAH ISOLATED FORMeKHAH ISOLATED FORMeMEEM ISOLATED FORMeREH ISOLATED FORM",
  "FD0EcSEEN WITH REH ISOLATED FORMcSAD WITH REH ISOLATED FORMcDAD WITH REH ISOLATED FORM",
  "FD11cTAH WITH ALEF MAKSURA FINAL FORMeYEH FINAL FORMcAIN WITH ALEF MAKSURA FINAL FORM",
  "FD14eYEH FINAL FORMcGHAIN WITH ALEF MAKSURA FINAL FORMeYEH FINAL FORM",
  "FD17cSEEN WITH ALEF MAKSURA FINAL FORMeYEH FINAL FORMcSHEEN WITH ALEF MAKSURA FINAL FORM",
  "FD1AeYEH FINAL FORMcHAH WITH ALEF MAKSURA FINAL FORMeYEH FINAL FORM",
  "FD1DcJEEM WITH ALEF MAKSURA FINAL FORMeYEH FINAL FORMcKHAH WITH ALEF MAKSURA FINAL FORM",
  "FD20eYEH FINAL FORMcSAD WITH ALEF MAKSURA FINAL FORMeYEH FINAL FORM",
  "FD23cDAD WITH ALEF MAKSURA FINAL FORMeYEH FINAL FORMcSHEEN WITH JEEM FINAL FORM",
  "FD26eHAH FINAL FORMeKHAH FINAL FORMeMEEM FINAL FORMeREH FINAL FORMcSEEN WITH REH FINAL FORM",
  "FD2BcSAD WITH REH FINAL FORMcDAD WITH REH FINAL FORMcSHEEN WITH JEEM INITIAL FORM",
  "FD2EeHAH INITIAL FORMeKHAH INITIAL FORMeMEEM INITIAL FORMcSEEN WITH HEH INITIAL FORM",
  "FD32cSHEEN WITH HEH INITIAL FORMcTAH WITH MEEM INITIAL FORMcSEEN WITH JEEM MEDIAL FORM",
  "FD35eHAH MEDIAL FORMeKHAH MEDIAL FORMcSHEEN WITH JEEM MEDIAL FORMeHAH MEDIAL FORM",
  "FD39eKHAH MEDIAL FORMcTAH WITH MEEM MEDIAL FORMcZAH WITH MEEM MEDIAL FORM",
  "FD3CcALEF WITH FATHATAN FINAL FORMfISOLATED FORMaORNATE LEFT PARENTHESISbRIGHT PARENTHESIS",
  "FD40aARABIC LIGATURE RAHIMAHU ALLAAHcRADI ALLAAHU ANHeANHAAeANHUMeANHUMAAeANHUNNA",
  "FD46cSALLALLAAHU ALAYHI WA-AALIHcALAYHI AS-SALAAMcALAYHIM AS-SALAAMcALAYHIMAA AS-SALAAM",
  "FD4AcALAYHI AS-SALAATU WAS-SALAAMcQUDDISA SIRRAHcSALLALLAHU ALAYHI WAAALIHEE WA-SALLAM",
  "FD4DcALAYHAA AS-SALAAMcTABAARAKA WA-TAAALAAcRAHIMAHUM ALLAAH",
  "FD50cTEH WITH JEEM WITH MEEM INITIAL FORMeHAH WITH JEEM FINAL FORMhINITIAL FORM",
  "FD53gMEEM INITIAL FORMeKHAH WITH MEEM INITIAL FORMeMEEM WITH JEEM INITIAL FORM",
  "FD56gHAH INITIAL FORMgKHAH INITIAL FORMcJEEM WITH MEEM WITH HAH FINAL FORMhINITIAL FORM",
  "FD5AcHAH WITH MEEM WITH YEH FINAL FORMgALEF MAKSURA FINAL FORM",
  "FD5CcSEEN WITH HAH WITH JEEM INITIAL FORMeJEEM WITH HAH INITIAL FORMgALEF MAKSURA FINAL FORM",
  "FD5FeMEEM WITH HAH FINAL FORMhINITIAL FORMgJEEM INITIAL FORMgMEEM FINAL FORMhINITIAL FORM",
  "FD64cSAD WITH HAH WITH HAH FINAL FORMhINITIAL FORMeMEEM WITH MEEM FINAL FORM",
  "FD67cSHEEN WITH HAH WITH MEEM FINAL FORMhINITIAL FORMeJEEM WITH YEH FINAL FORM",
  "FD6AeMEEM WITH KHAH FINAL FORMhINITIAL FORMgMEEM FINAL FORMhINITIAL FORM",
  "FD6EcDAD WITH HAH WITH ALEF MAKSURA FINAL FORMeKHAH WITH MEEM FINAL FORMhINITIAL FORM",
  "FD71cTAH WITH MEEM WITH HAH FINAL FORMhINITIAL FORMgMEEM INITIAL FORMgYEH FINAL FORM",
  "FD75cAIN WITH JEEM WITH MEEM FINAL FORMeMEEM WITH MEEM FINAL FORMhINITIAL FORM",
  "FD78gALEF MAKSURA FINAL FORMcGHAIN WITH MEEM WITH MEEM FINAL FORMgYEH FINAL FORM",
  "FD7BgALEF MAKSURA FINAL FORMcFEH WITH KHAH WITH MEEM FINAL FORMhINITIAL FORM",
  "FD7EcQAF WITH MEEM WITH HAH FINAL FORMgMEEM FINAL FORMcLAM WITH HAH WITH MEEM FINAL FORM",
  "FD81gYEH FINAL FORMgALEF MAKSURA FINAL FORMeJEEM WITH JEEM INITIAL FORMhFINAL FORM",
  "FD85eKHAH WITH MEEM FINAL FORMhINITIAL FORMeMEEM WITH HAH FINAL FORMhINITIAL FORM",
  "FD89cMEEM WITH HAH WITH JEEM INITIAL FORMgMEEM INITIAL FORMgYEH FINAL FORM",
  "FD8CeJEEM WITH HAH INITIAL FORMgMEEM INITIAL FORMeKHAH WITH JEEM INITIAL FORM",
  "FD8FgMEEM INITIAL FORM",
  "FD92eJEEM WITH KHAH INITIAL FORMcHEH WITH MEEM WITH JEEM INITIAL FORMgMEEM INITIAL FORM",
  "FD95cNOON WITH HAH WITH MEEM INITIAL FORMgALEF MAKSURA FINAL FORMeJEEM WITH MEEM FINAL FORM",
  "FD98hINITIAL FORMgALEF MAKSURA FINAL FORMeMEEM WITH YEH FINAL FORMgALEF MAKSURA FINAL FORM",
  "FD9CcYEH WITH MEEM WITH MEEM FINAL FORMhINITIAL FORMcBEH WITH KHAH WITH YEH FINAL FORM",
  "FD9FcTEH WITH JEEM WITH YEH FINAL FORMgALEF MAKSURA FINAL FORMeKHAH WITH YEH FINAL FORM",
  "FDA2gALEF MAKSURA FINAL FORMeMEEM WITH YEH FINAL FORMgALEF MAKSURA FINAL FORM",
  "FDA5cJEEM WITH MEEM WITH YEH FINAL FORMeHAH WITH ALEF MAKSURA FINAL FORM",
  "FDA7eMEEM WITH ALEF MAKSURA FINAL FORMcSEEN WITH KHAH WITH ALEF MAKSURA FINAL FORM",
  "FDA9cSAD WITH HAH WITH YEH FINAL FORMcSHEEN WITH HAH WITH YEH FINAL FORM",
  "FDABcDAD WITH HAH WITH YEH FINAL FORMcLAM WITH JEEM WITH YEH FINAL FORM",
  "FDADeMEEM WITH YEH FINAL FORMcYEH WITH HAH WITH YEH FINAL FORMeJEEM WITH YEH FINAL FORM",
  "FDB0eMEEM WITH YEH FINAL FORMcMEEM WITH MEEM WITH YEH FINAL FORM",
  "FDB2cQAF WITH MEEM WITH YEH FINAL FORMcNOON WITH HAH WITH YEH FINAL FORM",
  "FDB4cQAF WITH MEEM WITH HAH INITIAL FORMcLAM WITH HAH WITH MEEM INITIAL FORM",
  "FDB6cAIN WITH MEEM WITH YEH FINAL FORMcKAF WITH MEEM WITH YEH FINAL FORM",
  "FDB8cNOON WITH JEEM WITH HAH INITIAL FORMcMEEM WITH KHAH WITH YEH FINAL FORM",
  "FDBAcLAM WITH JEEM WITH MEEM INITIAL FORMcKAF WITH MEEM WITH MEEM FINAL FORM",
  "FDBCcLAM WITH JEEM WITH MEEM FINAL FORMcNOON WITH JEEM WITH HAH FINAL FORM",
  "FDBEcJEEM WITH HAH WITH YEH FINAL FORMcHAH WITH JEEM WITH YEH FINAL FORM",
  "FDC0cMEEM WITH JEEM WITH YEH FINAL FORMcFEH WITH MEEM WITH YEH FINAL FORM",
  "FDC2cBEH WITH HAH WITH YEH FINAL FORMcKAF WITH MEEM WITH MEEM INITIAL FORM",
  "FDC4cAIN WITH JEEM WITH MEEM INITIAL FORMcSAD WITH MEEM WITH MEEM INITIAL FORM",
  "FDC6cSEEN WITH KHAH WITH YEH FINAL FORMcNOON WITH JEEM WITH YEH FINAL FORM",
  "FDCFcSALAAMUHU ALAYNAA",
  "FDF0cSALLA USED AS KORANIC STOP SIGN ISOLATED FORM",
  "FDF1cQALA USED AS KORANIC STOP SIGN ISOLATED FORMcALLAH ISOLATED FORMcAKBAR ISOLATED FORM",
  "FDF4cMOHAMMAD ISOLATED FORMcSALAM ISOLATED FORMcRASOUL ISOLATED FORMcALAYHE ISOLATED FORM",
  "FDF8cWASALLAM ISOLATED FORMcSALLA ISOLATED FORMcSALLALLAHOU ALAYHE WASALLAMcJALLAJALALOUHOU",
  "FDFCaRIAL SIGNaARABIC LIGATURE BISMILLAH AR-RAHMAN AR-RAHEEMcSUBHAANAHU WA TAAALAA",
  "FDFFcAZZA WA JALLaVARIATION SELECTOR-1bSELECTOR-2bSELECTOR-3bSELECTOR-4bSELECTOR-5",
  "FE05bSELECTOR-6bSELECTOR-7bSELECTOR-8bSELECTOR-9bSELECTOR-10bSELECTOR-11bSELECTOR-12",
  "FE0CbSELECTOR-13bSELECTOR-14bSELECTOR-15bSELECTOR-16aPRESENTATION FORM FOR VERTICAL COMMA",
  "FE11eIDEOGRAPHIC COMMAfFULL STOPeCOLONeSEMICOLONeEXCLAMATION MARKeQUESTION MARK",
  "FE17eLEFT WHITE LENTICULAR BRACKETeRIGHT WHITE LENTICULAR BRAKCETeHORIZONTAL ELLIPSIS",
  "FE20aCOMBINING LIGATURE LEFT HALFcRIGHT HALFbDOUBLE TILDE LEFT HALFdRIGHT HALF",
  "FE24bMACRON LEFT HALFcRIGHT HALFbCONJOINING MACRONbLIGATURE LEFT HALF BELOWcRIGHT HALF BELOW",
  "FE29bTILDE LEFT HALF BELOWcRIGHT HALF BELOWbMACRON LEFT HALF BELOWcRIGHT HALF BELOW",
  "FE2DbCONJOINING MACRON BELOWbCYRILLIC TITLO LEFT HALFdRIGHT HALF",
  "FE30aPRESENTATION FORM FOR VERTICAL TWO DOT LEADEReEM DASHeEN DASHeLOW LINEeWAVY LOW LINE",
  "FE35eLEFT PARENTHESISeRIGHT PARENTHESISeLEFT CURLY BRACKETeRIGHT CURLY BRACKET",
  "FE39eLEFT TORTOISE SHELL BRACKETeRIGHT TORTOISE SHELL BRACKETeLEFT BLACK LENTICULAR BRACKET",
  "FE3CeRIGHT BLACK LENTICULAR BRACKETeLEFT DOUBLE ANGLE BRACKETeRIGHT DOUBLE ANGLE BRACKET",
  "FE3FeLEFT ANGLE BRACKETeRIGHT ANGLE BRACKETeLEFT CORNER BRACKETeRIGHT CORNER BRACKET",
  "FE43eLEFT WHITE CORNER BRACKETeRIGHT WHITE CORNER BRACKETaSESAME DOTaWHITE SESAME DOT",
  "FE47aPRESENTATION FORM FOR VERTICAL LEFT SQUARE BRACKETeRIGHT SQUARE BRACKETaDASHED OVERLINE",
  "FE4AaCENTRELINE OVERLINEaWAVY OVERLINEaDOUBLE WAVY OVERLINEaDASHED LOW LINE",
  "FE4EaCENTRELINE LOW LINEaWAVY LOW LINEaSMALL COMMAbIDEOGRAPHIC COMMAbFULL STOP",
  "FE54bSEMICOLONbCOLONbQUESTION MARKbEXCLAMATION MARKbEM DASHbLEFT PARENTHESIS",
  "FE5AbRIGHT PARENTHESISbLEFT CURLY BRACKETbRIGHT CURLY BRACKETbLEFT TORTOISE SHELL BRACKET",
  "FE5EbRIGHT TORTOISE SHELL BRACKETbNUMBER SIGNbAMPERSANDbASTERISKbPLUS SIGNbHYPHEN-MINUS",
  "FE64bLESS-THAN SIGNbGREATER-THAN SIGNbEQUALS SIGN",
  "FE68bREVERSE SOLIDUSbDOLLAR SIGNbPERCENT SIGNbCOMMERCIAL AT",
  "FE70aARABIC FATHATAN ISOLATED FORMbTATWEEL WITH FATHATAN ABOVEbDAMMATAN ISOLATED FORM",
  "FE73bTAIL FRAGMENTbKASRATAN ISOLATED FORM",
  "FE76bFATHA ISOLATED FORMcMEDIAL FORMbDAMMA ISOLATED FORMcMEDIAL FORMbKASRA ISOLATED FORM",
  "FE7BcMEDIAL FORMbSHADDA ISOLATED FORMcMEDIAL FORMbSUKUN ISOLATED FORMcMEDIAL FORM",
  "FE80bLETTER HAMZA ISOLATED FORMcALEF WITH MADDA ABOVE ISOLATED FORMgFINAL FORM",
  "FE83eHAMZA ABOVE ISOLATED FORMgFINAL FORMcWAW WITH HAMZA ABOVE ISOLATED FORMgFINAL FORM",
  "FE87cALEF WITH HAMZA BELOW ISOLATED FORMgFINAL FORMcYEH WITH HAMZA ABOVE ISOLATED FORM",
  "FE8AgFINAL FORMgINITIAL FORMgMEDIAL FORMcALEF ISOLATED FORMdFINAL FORMcBEH ISOLATED FORM",
  "FE90dFINAL FORMdINITIAL FORMdMEDIAL FORMcTEH MARBUTA ISOLATED FORMeFINAL FORMdISOLATED FORM",
  "FE96dFINAL FORMdINITIAL FORMdMEDIAL FORMcTHEH ISOLATED FORMdFINAL FORMdINITIAL FORM",
  "FE9CdMEDIAL FORMcJEEM ISOLATED FORMdFINAL FORMdINITIAL FORMdMEDIAL FORMcHAH ISOLATED FORM",
  "FEA2dFINAL FORMdINITIAL FORMdMEDIAL FORMcKHAH ISOLATED FORMdFINAL FORMdINITIAL FORM",
  "FEA8dMEDIAL FORMcDAL ISOLATED FORMdFINAL FORMcTHAL ISOLATED FORMdFINAL FORM",
  "FEADcREH ISOLATED FORMdFINAL FORMcZAIN ISOLATED FORMdFINAL FORMcSEEN ISOLATED FORM",
  "FEB2dFINAL FORMdINITIAL FORMdMEDIAL FORMcSHEEN ISOLATED FORMdFINAL FORMdINITIAL FORM",
  "FEB8dMEDIAL FORMcSAD ISOLATED FORMdFINAL FORMdINITIAL FORMdMEDIAL FORMcDAD ISOLATED FORM",
  "FEBEdFINAL FORMdINITIAL FORMdMEDIAL FORMcTAH ISOLATED FORMdFINAL FORMdINITIAL FORM",
  "FEC4dMEDIAL FORMcZAH ISOLATED FORMdFINAL FORMdINITIAL FORMdMEDIAL FORMcAIN ISOLATED FORM",
  "FECAdFINAL FORMdINITIAL FORMdMEDIAL FORMcGHAIN ISOLATED FORMdFINAL FORMdINITIAL FORM",
  "FED0dMEDIAL FORMcFEH ISOLATED FORMdFINAL FORMdINITIAL FORMdMEDIAL FORMcQAF ISOLATED FORM",
  "FED6dFINAL FORMdINITIAL FORMdMEDIAL FORMcKAF ISOLATED FORMdFINAL FORMdINITIAL FORM",
  "FEDCdMEDIAL FORMcLAM ISOLATED FORMdFINAL FORMdINITIAL FORMdMEDIAL FORMcMEEM ISOLATED FORM",
  "FEE2dFINAL FORMdINITIAL FORMdMEDIAL FORMcNOON ISOLATED FORMdFINAL FORMdINITIAL FORM",
  "FEE8dMEDIAL FORMcHEH ISOLATED FORMdFINAL FORMdINITIAL FORMdMEDIAL FORMcWAW ISOLATED FORM",
  "FEEEdFINAL FORMcALEF MAKSURA ISOLATED FORMeFINAL FORMcYEH ISOLATED FORMdFINAL FORM",
  "FEF3dINITIAL FORMdMEDIAL FORMbLIGATURE LAM WITH ALEF WITH MADDA ABOVE ISOLATED FORM",
  "FEF6iFINAL FORMgHAMZA ABOVE ISOLATED FORMiFINAL FORMhBELOW ISOLATED FORMiFINAL FORM",
  "FEFBfISOLATED FORMfFINAL FORM",
  "FEFFaZERO WIDTH NO-BREAK SPACE",
  "FF01aFULLWIDTH EXCLAMATION MARKbQUOTATION MARKbNUMBER SIGNbDOLLAR SIGNbPERCENT SIGN",
  "FF06bAMPERSANDbAPOSTROPHEbLEFT PARENTHESISbRIGHT PARENTHESISbASTERISKbPLUS SIGNbCOMMA",
  "FF0DbHYPHEN-MINUSbFULL STOPbSOLIDUSbDIGIT ZEROcONEcTWOcTHREEcFOURcFIVEcSIXcSEVENcEIGHTcNINE",
  "FF1AbCOLONbSEMICOLONbLESS-THAN SIGNbEQUALS SIGNbGREATER-THAN SIGNbQUESTION MARK",
  "FF20bCOMMERCIAL ATbLATIN CAPITAL LETTER AeBeCeDeEeFeGeHeIeJeKeLeMeNeOePeQeReSeTeUeVeWeXeYeZ",
  "FF3BbLEFT SQUARE BRACKETbREVERSE SOLIDUSbRIGHT SQUARE BRACKETbCIRCUMFLEX ACCENTbLOW LINE",
  "FF40bGRAVE ACCENTbLATIN SMALL LETTER AeBeCeDeEeFeGeHeIeJeKeLeMeNeOePeQeReSeTeUeVeWeXeYeZ",
  "FF5BbLEFT CURLY BRACKETbVERTICAL LINEbRIGHT CURLY BRACKETbTILDEbLEFT WHITE PARENTHESIS",
  "FF60bRIGHT WHITE PARENTHESISaHALFWIDTH IDEOGRAPHIC FULL STOPbLEFT CORNER BRACKET",
  "FF63bRIGHT CORNER BRACKETbIDEOGRAPHIC COMMAbKATAKANA MIDDLE DOTcLETTER WOdSMALL AeIeUeEeOeYA",
  "FF6DeYUeYOeTUbKATAKANA-HIRAGANA PROLONGED SOUND MARKbKATAKANA LETTER AdIdUdEdOdKAdKIdKUdKE",
  "FF7AdKOdSAdSIdSUdSEdSOdTAdTIdTUdTEdTOdNAdNIdNUdNEdNOdHAdHIdHUdHEdHOdMAdMIdMUdMEdMOdYAdYUdYO",
  "FF97dRAdRIdRUdREdROdWAdNcVOICED SOUND MARKcSEMI-VOICED SOUND MARKbHANGUL FILLER",
  "FFA1cLETTER KIYEOKdSSANGKIYEOKdKIYEOK-SIOSdNIEUNdNIEUN-CIEUCdNIEUN-HIEUHdTIKEUTdSSANGTIKEUT",
  "FFA9dRIEULdRIEUL-KIYEOKdRIEUL-MIEUMdRIEUL-PIEUPdRIEUL-SIOSdRIEUL-THIEUTHdRIEUL-PHIEUPH",
  "FFB0dRIEUL-HIEUHdMIEUMdPIEUPdSSANGPIEUPdPIEUP-SIOSdSIOSdSSANGSIOSdIEUNGdCIEUCdSSANGCIEUC",
  "FFBAdCHIEUCHdKHIEUKHdTHIEUTHdPHIEUPHdHIEUH",
  "FFC2dAdAEdYAdYAEdEOdE",
  "FFCAdYEOdYEdOdWAdWAEdOE",
  "FFD2dYOdUdWEOdWEdWIdYU",
  "FFDAdEUdYIdI",
  "FFE0aFULLWIDTH CENT SIGNbPOUND SIGNbNOT SIGNbMACRONbBROKEN BARbYEN SIGNbWON SIGN",
  "FFE8aHALFWIDTH FORMS LIGHT VERTICALbLEFTWARDS ARROWbUPWARDS ARROWbRIGHTWARDS ARROW",
  "FFECbDOWNWARDS ARROWbBLACK SQUAREbWHITE CIRCLE",
  "FFF9aINTERLINEAR ANNOTATION ANCHORcSEPARATORcTERMINATORaOBJECT REPLACEMENT CHARACTER",
  "FFFDaREPLACEMENT CHARACTER"]

end Stencil.CodePoint.Name
