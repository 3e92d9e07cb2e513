/-!
# Names of pictographs

The names of the code points from 1F000 to 10FFFF: tiles and cards, emoji, legacy symbols, tags and
variation selectors. The rows are read by the lookup of names.

## Main definitions

* `CodePoint.Name.pictographs` — the rows.
-/

namespace Stencil.CodePoint.Name

/-- The names of the code points from 1F000 to 10FFFF. -/
def pictographs : List String :=
  ["1F000aMAHJONG TILE EAST WINDcSOUTH WINDcWEST WINDcNORTH WINDcRED DRAGONcGREEN DRAGON",
  "1F006cWHITE DRAGONcONE OF CHARACTERScTWO OF CHARACTERScTHREE OF CHARACTERS",
  "1F00AcFOUR OF CHARACTERScFIVE OF CHARACTERScSIX OF CHARACTERScSEVEN OF CHARACTERS",
  "1F00EcEIGHT OF CHARACTERScNINE OF CHARACTERScONE OF BAMBOOScTWO OF BAMBOOScTHREE OF BAMBOOS",
  "1F013cFOUR OF BAMBOOScFIVE OF BAMBOOScSIX OF BAMBOOScSEVEN OF BAMBOOScEIGHT OF BAMBOOS",
  "1F018cNINE OF BAMBOOScONE OF CIRCLEScTWO OF CIRCLEScTHREE OF CIRCLEScFOUR OF CIRCLES",
  "1F01DcFIVE OF CIRCLEScSIX OF CIRCLEScSEVEN OF CIRCLEScEIGHT OF CIRCLEScNINE OF CIRCLEScPLUM",
  "1F023cORCHIDcBAMBOOcCHRYSANTHEMUMcSPRINGcSUMMERcAUTUMNcWINTERcJOKERcBACK",
  "1F030aDOMINO TILE HORIZONTAL BACKcHORIZONTAL-00-00cHORIZONTAL-00-01cHORIZONTAL-00-02",
  "1F034cHORIZONTAL-00-03cHORIZONTAL-00-04cHORIZONTAL-00-05cHORIZONTAL-00-06cHORIZONTAL-01-00",
  "1F039cHORIZONTAL-01-01cHORIZONTAL-01-02cHORIZONTAL-01-03cHORIZONTAL-01-04cHORIZONTAL-01-05",
  "1F03EcHORIZONTAL-01-06cHORIZONTAL-02-00cHORIZONTAL-02-01cHORIZONTAL-02-02cHORIZONTAL-02-03",
  "1F043cHORIZONTAL-02-04cHORIZONTAL-02-05cHORIZONTAL-02-06cHORIZONTAL-03-00cHORIZONTAL-03-01",
  "1F048cHORIZONTAL-03-02cHORIZONTAL-03-03cHORIZONTAL-03-04cHORIZONTAL-03-05cHORIZONTAL-03-06",
  "1F04DcHORIZONTAL-04-00cHORIZONTAL-04-01cHORIZONTAL-04-02cHORIZONTAL-04-03cHORIZONTAL-04-04",
  "1F052cHORIZONTAL-04-05cHORIZONTAL-04-06cHORIZONTAL-05-00cHORIZONTAL-05-01cHORIZONTAL-05-02",
  "1F057cHORIZONTAL-05-03cHORIZONTAL-05-04cHORIZONTAL-05-05cHORIZONTAL-05-06cHORIZONTAL-06-00",
  "1F05CcHORIZONTAL-06-01cHORIZONTAL-06-02cHORIZONTAL-06-03cHORIZONTAL-06-04cHORIZONTAL-06-05",
  "1F061cHORIZONTAL-06-06cVERTICAL BACKcVERTICAL-00-00cVERTICAL-00-01cVERTICAL-00-02",
  "1F066cVERTICAL-00-03cVERTICAL-00-04cVERTICAL-00-05cVERTICAL-00-06cVERTICAL-01-00",
  "1F06BcVERTICAL-01-01cVERTICAL-01-02cVERTICAL-01-03cVERTICAL-01-04cVERTICAL-01-05",
  "1F070cVERTICAL-01-06cVERTICAL-02-00cVERTICAL-02-01cVERTICAL-02-02cVERTICAL-02-03",
  "1F075cVERTICAL-02-04cVERTICAL-02-05cVERTICAL-02-06cVERTICAL-03-00cVERTICAL-03-01",
  "1F07AcVERTICAL-03-02cVERTICAL-03-03cVERTICAL-03-04cVERTICAL-03-05cVERTICAL-03-06",
  "1F07FcVERTICAL-04-00cVERTICAL-04-01cVERTICAL-04-02cVERTICAL-04-03cVERTICAL-04-04",
  "1F084cVERTICAL-04-05cVERTICAL-04-06cVERTICAL-05-00cVERTICAL-05-01cVERTICAL-05-02",
  "1F089cVERTICAL-05-03cVERTICAL-05-04cVERTICAL-05-05cVERTICAL-05-06cVERTICAL-06-00",
  "1F08EcVERTICAL-06-01cVERTICAL-06-02cVERTICAL-06-03cVERTICAL-06-04cVERTICAL-06-05",
  "1F093cVERTICAL-06-06",
  "1F0A0aPLAYING CARD BACKcACE OF SPADEScTWO OF SPADEScTHREE OF SPADEScFOUR OF SPADES",
  "1F0A5cFIVE OF SPADEScSIX OF SPADEScSEVEN OF SPADEScEIGHT OF SPADEScNINE OF SPADES",
  "1F0AAcTEN OF SPADEScJACK OF SPADEScKNIGHT OF SPADEScQUEEN OF SPADEScKING OF SPADES",
  "1F0B1cACE OF HEARTScTWO OF HEARTScTHREE OF HEARTScFOUR OF HEARTScFIVE OF HEARTS",
  "1F0B6cSIX OF HEARTScSEVEN OF HEARTScEIGHT OF HEARTScNINE OF HEARTScTEN OF HEARTS",
  "1F0BBcJACK OF HEARTScKNIGHT OF HEARTScQUEEN OF HEARTScKING OF HEARTScRED JOKER",
  "1F0C1cACE OF DIAMONDScTWO OF DIAMONDScTHREE OF DIAMONDScFOUR OF DIAMONDScFIVE OF DIAMONDS",
  "1F0C6cSIX OF DIAMONDScSEVEN OF DIAMONDScEIGHT OF DIAMONDScNINE OF DIAMONDScTEN OF DIAMONDS",
  "1F0CBcJACK OF DIAMONDScKNIGHT OF DIAMONDScQUEEN OF DIAMONDScKING OF DIAMONDScBLACK JOKER",
  "1F0D1cACE OF CLUBScTWO OF CLUBScTHREE OF CLUBScFOUR OF CLUBScFIVE OF CLUBScSIX OF CLUBS",
  "1F0D7cSEVEN OF CLUBScEIGHT OF CLUBScNINE OF CLUBScTEN OF CLUBScJACK OF CLUBScKNIGHT OF CLUBS",
  "1F0DDcQUEEN OF CLUBScKING OF CLUBScWHITE JOKERcFOOLcTRUMP-1cTRUMP-2cTRUMP-3cTRUMP-4cTRUMP-5",
  "1F0E6cTRUMP-6cTRUMP-7cTRUMP-8cTRUMP-9cTRUMP-10cTRUMP-11cTRUMP-12cTRUMP-13cTRUMP-14cTRUMP-15",
  "1F0F0cTRUMP-16cTRUMP-17cTRUMP-18cTRUMP-19cTRUMP-20cTRUMP-21",
  "1F100aDIGIT ZERO FULL STOPcCOMMAbONE COMMAbTWO COMMAbTHREE COMMAbFOUR COMMAbFIVE COMMA",
  "1F107bSIX COMMAbSEVEN COMMAbEIGHT COMMAbNINE COMMAaDINGBAT CIRCLED SANS-SERIF DIGIT ZERO",
  "1F10CbNEGATIVE CIRCLED SANS-SERIF DIGIT ZEROaCIRCLED ZERO WITH SLASHbANTICLOCKWISE ARROW",
  "1F10FbDOLLAR SIGN WITH OVERLAID BACKSLASHaPARENTHESIZED LATIN CAPITAL LETTER AeBeCeDeEeFeGeH",
  "1F118eIeJeKeLeMeNeOePeQeReSeTeUeVeWeXeYeZaTORTOISE SHELL BRACKETED LATIN CAPITAL LETTER S",
  "1F12BaCIRCLED ITALIC LATIN CAPITAL LETTER CfRbCDbWZaCOPYLEFT SYMBOL",
  "1F130aSQUARED LATIN CAPITAL LETTER AeBeCeDeEeFeGeHeIeJeKeLeMeNeOePeQeReSeTeUeVeWeXeYeZbHVbMV",
  "1F14CbSDbSSbPPVbWCaNEGATIVE CIRCLED LATIN CAPITAL LETTER AfBfCfDfEfFfGfHfIfJfKfLfMfNfOfPfQfR",
  "1F162fSfTfUfVfWfXfYfZaRAISED MC SIGNbMD SIGNbMR SIGNaCIRCLED CCbC WITH OVERLAID BACKSLASH",
  "1F16FbHUMAN FIGUREaNEGATIVE SQUARED LATIN CAPITAL LETTER AfBfCfDfEfFfGfHfIfJfKfLfMfNfOfPfQfR",
  "1F182fSfTfUfVfWfXfYfZaCROSSED NEGATIVE SQUARED LATIN CAPITAL LETTER PaNEGATIVE SQUARED ICcPA",
  "1F18DcSAcABcWCaSQUARE DJaSQUARED CLbCOOLbFREEbIDbNEWbNGbOKbSOSbUP WITH EXCLAMATION MARKbVS",
  "1F19BbTHREE DbSECOND SCREENbTWO KbFOUR KbEIGHT KbFIVE POINT ONEbSEVEN POINT ONE",
  "1F1A2bTWENTY-TWO POINT TWObSIXTY PbONE HUNDRED TWENTY PbLATIN SMALL LETTER DbHCbHDRbHI-RES",
  "1F1A9bLOSSLESSbSHVbUHDbVODaMASK WORK SYMBOL",
  "1F1E6aREGIONAL INDICATOR SYMBOL LETTER AeBeCeDeEeFeGeHeIeJeKeLeMeNeOePeQeReSeTeUeVeWeXeYeZ",
  "1F200aSQUARE HIRAGANA HOKAaSQUARED KATAKANA KOKOcSA",
  "1F210bCJK UNIFIED IDEOGRAPH-624BdIDEOGRAPH-5B57dIDEOGRAPH-53CCbKATAKANA DE",
  "1F214bCJK UNIFIED IDEOGRAPH-4E8CdIDEOGRAPH-591AdIDEOGRAPH-89E3dIDEOGRAPH-5929dIDEOGRAPH-4EA4",
  "1F219dIDEOGRAPH-6620dIDEOGRAPH-7121dIDEOGRAPH-6599dIDEOGRAPH-524DdIDEOGRAPH-5F8C",
  "1F21EdIDEOGRAPH-518DdIDEOGRAPH-65B0dIDEOGRAPH-521DdIDEOGRAPH-7D42dIDEOGRAPH-751F",
  "1F223dIDEOGRAPH-8CA9dIDEOGRAPH-58F0dIDEOGRAPH-5439dIDEOGRAPH-6F14dIDEOGRAPH-6295",
  "1F228dIDEOGRAPH-6355dIDEOGRAPH-4E00dIDEOGRAPH-4E09dIDEOGRAPH-904AdIDEOGRAPH-5DE6",
  "1F22DdIDEOGRAPH-4E2DdIDEOGRAPH-53F3dIDEOGRAPH-6307dIDEOGRAPH-8D70dIDEOGRAPH-6253",
  "1F232dIDEOGRAPH-7981dIDEOGRAPH-7A7AdIDEOGRAPH-5408dIDEOGRAPH-6E80dIDEOGRAPH-6709",
  "1F237dIDEOGRAPH-6708dIDEOGRAPH-7533dIDEOGRAPH-5272dIDEOGRAPH-55B6dIDEOGRAPH-914D",
  "1F240aTORTOISE SHELL BRACKETED CJK UNIFIED IDEOGRAPH-672CfIDEOGRAPH-4E09fIDEOGRAPH-4E8C",
  "1F243fIDEOGRAPH-5B89fIDEOGRAPH-70B9fIDEOGRAPH-6253fIDEOGRAPH-76D7fIDEOGRAPH-52DD",
  "1F248fIDEOGRAPH-6557",
  "1F250aCIRCLED IDEOGRAPH ADVANTAGEcACCEPT",
  "1F260aROUNDED SYMBOL FOR FUdLUdSHOUdXIdSHUANGXIdCAI",
  "1F300aCYCLONEaFOGGYaCLOSED UMBRELLAaNIGHT WITH STARSaSUNRISE OVER MOUNTAINSb",
  "1F306aCITYSCAPE AT DUSKaSUNSET OVER BUILDINGSaRAINBOWaBRIDGE AT NIGHTaWATER WAVEaVOLCANO",
  "1F30CaMILKY WAYaEARTH GLOBE EUROPE-AFRICAcAMERICAScASIA-AUSTRALIAaGLOBE WITH MERIDIANS",
  "1F311aNEW MOON SYMBOLaWAXING CRESCENT MOON SYMBOLaFIRST QUARTER MOON SYMBOL",
  "1F314aWAXING GIBBOUS MOON SYMBOLaFULL MOON SYMBOLaWANING GIBBOUS MOON SYMBOL",
  "1F317aLAST QUARTER MOON SYMBOLaWANING CRESCENT MOON SYMBOLaCRESCENT MOONaNEW MOON WITH FACE",
  "1F31BaFIRST QUARTER MOON WITH FACEaLAST QUARTER MOON WITH FACEaFULL MOON WITH FACE",
  "1F31EaSUN WITH FACEaGLOWING STARaSHOOTING STARaTHERMOMETERaBLACK DROPLETaWHITE SUN",
  "1F324cWITH SMALL CLOUDcBEHIND CLOUDeWITH RAINaCLOUD WITH RAINcSNOWcLIGHTNINGcTORNADOaFOG",
  "1F32CaWIND BLOWING FACEaHOT DOGaTACOaBURRITOaCHESTNUTaSEEDLINGaEVERGREEN TREEaDECIDUOUS TREE",
  "1F334aPALM TREEaCACTUSaHOT PEPPERaTULIPaCHERRY BLOSSOMaROSEaHIBISCUSaSUNFLOWERaBLOSSOM",
  "1F33DaEAR OF MAIZEcRICEaHERBaFOUR LEAF CLOVERaMAPLE LEAFaFALLEN LEAFaLEAF FLUTTERING IN WIND",
  "1F344aMUSHROOMaTOMATOaAUBERGINEaGRAPESaMELONaWATERMELONaTANGERINEaLEMONaBANANAaPINEAPPLE",
  "1F34EaRED APPLEaGREEN APPLEaPEARaPEACHaCHERRIESaSTRAWBERRYaHAMBURGERaSLICE OF PIZZA",
  "1F356aMEAT ON BONEaPOULTRY LEGaRICE CRACKERbBALLaCOOKED RICEaCURRY AND RICEaSTEAMING BOWL",
  "1F35DaSPAGHETTIaBREADaFRENCH FRIESaROASTED SWEET POTATOaDANGOaODENaSUSHIaFRIED SHRIMP",
  "1F365aFISH CAKE WITH SWIRL DESIGNaSOFT ICE CREAMaSHAVED ICEaICE CREAMaDOUGHNUTaCOOKIE",
  "1F36BaCHOCOLATE BARaCANDYaLOLLIPOPaCUSTARDaHONEY POTaSHORTCAKEaBENTO BOXaPOT OF FOODaCOOKING",
  "1F374aFORK AND KNIFEaTEACUP WITHOUT HANDLEaSAKE BOTTLE AND CUPaWINE GLASSaCOCKTAIL GLASS",
  "1F379aTROPICAL DRINKaBEER MUGaCLINKING BEER MUGSaBABY BOTTLEaFORK AND KNIFE WITH PLATE",
  "1F37EaBOTTLE WITH POPPING CORKaPOPCORNaRIBBONaWRAPPED PRESENTaBIRTHDAY CAKEaJACK-O-LANTERN",
  "1F384aCHRISTMAS TREEaFATHER CHRISTMASaFIREWORKSaFIREWORK SPARKLERaBALLOONaPARTY POPPER",
  "1F38AaCONFETTI BALLaTANABATA TREEaCROSSED FLAGSaPINE DECORATIONaJAPANESE DOLLSaCARP STREAMER",
  "1F390aWIND CHIMEaMOON VIEWING CEREMONYaSCHOOL SATCHELaGRADUATION CAP",
  "1F394aHEART WITH TIP ON THE LEFTaBOUQUET OF FLOWERSaMILITARY MEDALaREMINDER RIBBON",
  "1F398aMUSICAL KEYBOARD WITH JACKSaSTUDIO MICROPHONEaLEVEL SLIDERaCONTROL KNOBS",
  "1F39CaBEAMED ASCENDING MUSICAL NOTESbDESCENDING MUSICAL NOTESaFILM FRAMESaADMISSION TICKETS",
  "1F3A0aCAROUSEL HORSEaFERRIS WHEELaROLLER COASTERaFISHING POLE AND FISHaMICROPHONE",
  "1F3A5aMOVIE CAMERAaCINEMAaHEADPHONEaARTIST PALETTEaTOP HATaCIRCUS TENTaTICKETaCLAPPER BOARD",
  "1F3ADaPERFORMING ARTSaVIDEO GAMEaDIRECT HITaSLOT MACHINEaBILLIARDSaGAME DIEaBOWLING",
  "1F3B4aFLOWER PLAYING CARDSaMUSICAL NOTEaMULTIPLE MUSICAL NOTESaSAXOPHONEaGUITAR",
  "1F3B9aMUSICAL KEYBOARDaTRUMPETaVIOLINaMUSICAL SCOREaRUNNING SHIRT WITH SASH",
  "1F3BEaTENNIS RACQUET AND BALLaSKI AND SKI BOOTaBASKETBALL AND HOOPaCHEQUERED FLAG",
  "1F3C2aSNOWBOARDERaRUNNERaSURFERaSPORTS MEDALaTROPHYaHORSE RACINGaAMERICAN FOOTBALL",
  "1F3C9aRUGBY FOOTBALLaSWIMMERaWEIGHT LIFTERaGOLFERaRACING MOTORCYCLEbCARaCRICKET BAT AND BALL",
  "1F3D0aVOLLEYBALLaFIELD HOCKEY STICK AND BALLaICE HOCKEY STICK AND PUCK",
  "1F3D3aTABLE TENNIS PADDLE AND BALLaSNOW CAPPED MOUNTAINaCAMPINGaBEACH WITH UMBRELLA",
  "1F3D7aBUILDING CONSTRUCTIONaHOUSE BUILDINGSaCITYSCAPEaDERELICT HOUSE BUILDING",
  "1F3DBaCLASSICAL BUILDINGaDESERTbISLANDaNATIONAL PARKaSTADIUMaHOUSE BUILDINGbWITH GARDEN",
  "1F3E2aOFFICE BUILDINGaJAPANESE POST OFFICEaEUROPEAN POST OFFICEaHOSPITALaBANK",
  "1F3E7aAUTOMATED TELLER MACHINEaHOTELaLOVE HOTELaCONVENIENCE STOREaSCHOOLaDEPARTMENT STORE",
  "1F3EDaFACTORYaIZAKAYA LANTERNaJAPANESE CASTLEaEUROPEAN CASTLEaWHITE PENNANTaBLACK PENNANT",
  "1F3F3aWAVING WHITE FLAGbBLACK FLAGaROSETTEaBLACK ROSETTEaLABEL",
  "1F3F8aBADMINTON RACQUET AND SHUTTLECOCKaBOW AND ARROWaAMPHORA",
  "1F3FBaEMOJI MODIFIER FITZPATRICK TYPE-1-2dTYPE-3dTYPE-4dTYPE-5dTYPE-6aRATaMOUSEaOX",
  "1F403aWATER BUFFALOaCOWaTIGERaLEOPARDaRABBITaCATaDRAGONaCROCODILEaWHALEaSNAILaSNAKEaHORSE",
  "1F40FaRAMaGOATaSHEEPaMONKEYaROOSTERaCHICKENaDOGaPIGaBOARaELEPHANTaOCTOPUSaSPIRAL SHELLaBUG",
  "1F41CaANTaHONEYBEEaLADY BEETLEaFISHaTROPICAL FISHaBLOWFISHaTURTLEaHATCHING CHICKaBABY CHICK",
  "1F425aFRONT-FACING BABY CHICKaBIRDaPENGUINaKOALAaPOODLEaDROMEDARY CAMELaBACTRIAN CAMEL",
  "1F42CaDOLPHINaMOUSE FACEaCOW FACEaTIGER FACEaRABBIT FACEaCAT FACEaDRAGON FACEaSPOUTING WHALE",
  "1F434aHORSE FACEaMONKEY FACEaDOG FACEaPIG FACEaFROG FACEaHAMSTER FACEaWOLF FACEaBEAR FACE",
  "1F43CaPANDA FACEaPIG NOSEaPAW PRINTSaCHIPMUNKaEYESaEYEaEARaNOSEaMOUTHaTONGUE",
  "1F446aWHITE UP POINTING BACKHAND INDEXbDOWN POINTING BACKHAND INDEX",
  "1F448bLEFT POINTING BACKHAND INDEXbRIGHT POINTING BACKHAND INDEXaFISTED HAND SIGN",
  "1F44BaWAVING HAND SIGNaOK HAND SIGNaTHUMBS UP SIGNbDOWN SIGNaCLAPPING HANDS SIGN",
  "1F450aOPEN HANDS SIGNaCROWNaWOMANS HATaEYEGLASSESaNECKTIEaT-SHIRTaJEANSaDRESSaKIMONOaBIKINI",
  "1F45AaWOMANS CLOTHESaPURSEaHANDBAGaPOUCHaMANS SHOEaATHLETIC SHOEaHIGH-HEELED SHOE",
  "1F461aWOMANS SANDALbBOOTSaFOOTPRINTSaBUST IN SILHOUETTEaBUSTS IN SILHOUETTEaBOYaGIRLaMAN",
  "1F469aWOMANaFAMILYaMAN AND WOMAN HOLDING HANDSaTWO MEN HOLDING HANDSbWOMEN HOLDING HANDS",
  "1F46EaPOLICE OFFICERaWOMAN WITH BUNNY EARSaBRIDE WITH VEILaPERSON WITH BLOND HAIR",
  "1F472aMAN WITH GUA PI MAOcTURBANaOLDER MANbWOMANaBABYaCONSTRUCTION WORKERaPRINCESS",
  "1F479aJAPANESE OGREbGOBLINaGHOSTaBABY ANGELaEXTRATERRESTRIAL ALIENaALIEN MONSTERaIMPaSKULL",
  "1F481aINFORMATION DESK PERSONaGUARDSMANaDANCERaLIPSTICKaNAIL POLISHaFACE MASSAGEaHAIRCUT",
  "1F488aBARBER POLEaSYRINGEaPILLaKISS MARKaLOVE LETTERaRINGaGEM STONEaKISSaBOUQUET",
  "1F491aCOUPLE WITH HEARTaWEDDINGaBEATING HEARTaBROKEN HEARTaTWO HEARTSaSPARKLING HEART",
  "1F497aGROWING HEARTaHEART WITH ARROWaBLUE HEARTaGREEN HEARTaYELLOW HEARTaPURPLE HEART",
  "1F49DaHEART WITH RIBBONaREVOLVING HEARTSaHEART DECORATIONaDIAMOND SHAPE WITH A DOT INSIDE",
  "1F4A1aELECTRIC LIGHT BULBaANGER SYMBOLaBOMBaSLEEPING SYMBOLaCOLLISION SYMBOL",
  "1F4A6aSPLASHING SWEAT SYMBOLaDROPLETaDASH SYMBOLaPILE OF POOaFLEXED BICEPSaDIZZY SYMBOL",
  "1F4ACaSPEECH BALLOONaTHOUGHT BALLOONaWHITE FLOWERaHUNDRED POINTS SYMBOLaMONEY BAG",
  "1F4B1aCURRENCY EXCHANGEaHEAVY DOLLAR SIGNaCREDIT CARDaBANKNOTE WITH YEN SIGNcDOLLAR SIGN",
  "1F4B6cEURO SIGNcPOUND SIGNaMONEY WITH WINGSaCHART WITH UPWARDS TREND AND YEN SIGNaSEAT",
  "1F4BBaPERSONAL COMPUTERaBRIEFCASEaMINIDISCaFLOPPY DISKaOPTICAL DISCaDVDaFILE FOLDER",
  "1F4C2aOPEN FILE FOLDERaPAGE WITH CURLbFACING UPaCALENDARaTEAR-OFF CALENDARaCARD INDEX",
  "1F4C8aCHART WITH UPWARDS TRENDcDOWNWARDS TRENDaBAR CHARTaCLIPBOARDaPUSHPINaROUND PUSHPIN",
  "1F4CEaPAPERCLIPaSTRAIGHT RULERaTRIANGULAR RULERaBOOKMARK TABSaLEDGERaNOTEBOOK",
  "1F4D4bWITH DECORATIVE COVERaCLOSED BOOKaOPEN BOOKaGREEN BOOKaBLUE BOOKaORANGE BOOKaBOOKS",
  "1F4DBaNAME BADGEaSCROLLaMEMOaTELEPHONE RECEIVERaPAGERaFAX MACHINEaSATELLITE ANTENNA",
  "1F4E2aPUBLIC ADDRESS LOUDSPEAKERaCHEERING MEGAPHONEaOUTBOX TRAYaINBOX TRAYaPACKAGE",
  "1F4E7aE-MAIL SYMBOLaINCOMING ENVELOPEaENVELOPE WITH DOWNWARDS ARROW ABOVE",
  "1F4EAaCLOSED MAILBOX WITH LOWERED FLAGdRAISED FLAGaOPEN MAILBOX WITH RAISED FLAG",
  "1F4EDdLOWERED FLAGaPOSTBOXaPOSTAL HORNaNEWSPAPERaMOBILE PHONEcWITH RIGHTWARDS ARROW AT LEFT",
  "1F4F3aVIBRATION MODEaMOBILE PHONE OFFaNO MOBILE PHONESaANTENNA WITH BARSaCAMERAbWITH FLASH",
  "1F4F9aVIDEO CAMERAaTELEVISIONaRADIOaVIDEOCASSETTEaFILM PROJECTORaPORTABLE STEREO",
  "1F4FFaPRAYER BEADSaTWISTED RIGHTWARDS ARROWS",
  "1F501aCLOCKWISE RIGHTWARDS AND LEFTWARDS OPEN CIRCLE ARROWShWITH CIRCLED ONE OVERLAY",
  "1F503bDOWNWARDS AND UPWARDS OPEN CIRCLE ARROWS",
  "1F504aANTICLOCKWISE DOWNWARDS AND UPWARDS OPEN CIRCLE ARROWSaLOW BRIGHTNESS SYMBOL",
  "1F506aHIGH BRIGHTNESS SYMBOLaSPEAKER WITH CANCELLATION STROKEbbWITH ONE SOUND WAVE",
  "1F50AcTHREE SOUND WAVESaBATTERYaELECTRIC PLUGaLEFT-POINTING MAGNIFYING GLASS",
  "1F50EaRIGHT-POINTING MAGNIFYING GLASSaLOCK WITH INK PENaCLOSED LOCK WITH KEYaKEYaLOCK",
  "1F513aOPEN LOCKaBELLbWITH CANCELLATION STROKEaBOOKMARKaLINK SYMBOLaRADIO BUTTON",
  "1F519aBACK WITH LEFTWARDS ARROW ABOVEaEND WITH LEFTWARDS ARROW ABOVE",
  "1F51BaON WITH EXCLAMATION MARK WITH LEFT RIGHT ARROW ABOVEaSOON WITH RIGHTWARDS ARROW ABOVE",
  "1F51DaTOP WITH UPWARDS ARROW ABOVEaNO ONE UNDER EIGHTEEN SYMBOLaKEYCAP TEN",
  "1F520aINPUT SYMBOL FOR LATIN CAPITAL LETTERSeSMALL LETTERSdNUMBERSdSYMBOLSdLATIN LETTERS",
  "1F525aFIREaELECTRIC TORCHaWRENCHaHAMMERaNUT AND BOLTaHOCHOaPISTOLaMICROSCOPEaTELESCOPE",
  "1F52EaCRYSTAL BALLaSIX POINTED STAR WITH MIDDLE DOTaJAPANESE SYMBOL FOR BEGINNER",
  "1F531aTRIDENT EMBLEMaBLACK SQUARE BUTTONaWHITE SQUARE BUTTONaLARGE RED CIRCLEbBLUE CIRCLE",
  "1F536bORANGE DIAMONDbBLUE DIAMONDaSMALL ORANGE DIAMONDbBLUE DIAMONDaUP-POINTING RED TRIANGLE",
  "1F53BaDOWN-POINTING RED TRIANGLEaUP-POINTING SMALL RED TRIANGLE",
  "1F53DaDOWN-POINTING SMALL RED TRIANGLEaLOWER RIGHT SHADOWED WHITE CIRCLE",
  "1F53FaUPPER RIGHT SHADOWED WHITE CIRCLEaCIRCLED CROSS POMMEE",
  "1F541aCROSS POMMEE WITH HALF-CIRCLE BELOWcaNOTCHED LEFT SEMICIRCLE WITH THREE DOTS",
  "1F544bRIGHT SEMICIRCLE WITH THREE DOTSaSYMBOL FOR MARKS CHAPTERaWHITE LATIN CROSS",
  "1F547aHEAVY LATIN CROSSaCELTIC CROSSaOM SYMBOLaDOVE OF PEACEaKAABAaMOSQUEaSYNAGOGUE",
  "1F54EaMENORAH WITH NINE BRANCHESaBOWL OF HYGIEIAaCLOCK FACE ONE OCLOCKcTWO OCLOCK",
  "1F552cTHREE OCLOCKcFOUR OCLOCKcFIVE OCLOCKcSIX OCLOCKcSEVEN OCLOCKcEIGHT OCLOCKcNINE OCLOCK",
  "1F559cTEN OCLOCKcELEVEN OCLOCKcTWELVE OCLOCKcONE-THIRTYcTWO-THIRTYcTHREE-THIRTYcFOUR-THIRTY",
  "1F560cFIVE-THIRTYcSIX-THIRTYcSEVEN-THIRTYcEIGHT-THIRTYcNINE-THIRTYcTEN-THIRTYcELEVEN-THIRTY",
  "1F567cTWELVE-THIRTYaRIGHT SPEAKERcWITH ONE SOUND WAVEdTHREE SOUND WAVESaBULLHORN",
  "1F56CbWITH SOUND WAVESaRINGING BELLaBOOKaCANDLEaMANTELPIECE CLOCKaBLACK SKULL AND CROSSBONES",
  "1F572aNO PIRACYaHOLEaMAN IN BUSINESS SUIT LEVITATINGaSLEUTH OR SPYaDARK SUNGLASSESaSPIDER",
  "1F578bWEBaJOYSTICKaMAN DANCINGaLEFT HAND TELEPHONE RECEIVERaTELEPHONE RECEIVER WITH PAGE",
  "1F57DaRIGHT HAND TELEPHONE RECEIVERaWHITE TOUCHTONE TELEPHONEaBLACK TOUCHTONE TELEPHONE",
  "1F580aTELEPHONE ON TOP OF MODEMaCLAMSHELL MOBILE PHONEaBACK OF ENVELOPEaSTAMPED ENVELOPE",
  "1F584aENVELOPE WITH LIGHTNINGaFLYING ENVELOPEaPEN OVER STAMPED ENVELOPEaLINKED PAPERCLIPS",
  "1F588aBLACK PUSHPINaLOWER LEFT PENCILcBALLPOINT PENcFOUNTAIN PENcPAINTBRUSHcCRAYON",
  "1F58EaLEFT WRITING HANDaTURNED OK HAND SIGNaRAISED HAND WITH FINGERS SPLAYED",
  "1F591aREVERSED RAISED HAND WITH FINGERS SPLAYEDbTHUMBS UP SIGNcDOWN SIGNbVICTORY HAND",
  "1F595bHAND WITH MIDDLE FINGER EXTENDEDaRAISED HAND WITH PART BETWEEN MIDDLE AND RING FINGERS",
  "1F597aWHITE DOWN POINTING LEFT HAND INDEXaSIDEWAYS WHITE LEFT POINTING INDEX",
  "1F599cRIGHT POINTING INDEXbBLACK LEFT POINTING INDEXcRIGHT POINTING INDEX",
  "1F59CaBLACK LEFT POINTING BACKHAND INDEXbRIGHT POINTING BACKHAND INDEX",
  "1F59EaSIDEWAYS WHITE UP POINTING INDEXcDOWN POINTING INDEXbBLACK UP POINTING INDEX",
  "1F5A1cDOWN POINTING INDEXaBLACK UP POINTING BACKHAND INDEXbDOWN POINTING BACKHAND INDEX",
  "1F5A4bHEARTaDESKTOP COMPUTERaKEYBOARD AND MOUSEaTHREE NETWORKED COMPUTERSaPRINTER",
  "1F5A9aPOCKET CALCULATORaBLACK HARD SHELL FLOPPY DISKaWHITE HARD SHELL FLOPPY DISK",
  "1F5ACaSOFT SHELL FLOPPY DISKaTAPE CARTRIDGEaWIRED KEYBOARDaONE BUTTON MOUSEaTWO BUTTON MOUSE",
  "1F5B1aTHREE BUTTON MOUSEaTRACKBALLaOLD PERSONAL COMPUTERaHARD DISKaSCREENaPRINTER ICON",
  "1F5B7aFAX ICONaOPTICAL DISC ICONaDOCUMENT WITH TEXTdAND PICTUREcPICTUREaFRAME WITH PICTURE",
  "1F5BDcTILEScAN XaBLACK FOLDERaFOLDERaOPEN FOLDERaCARD INDEX DIVIDERSbFILE BOXaFILE CABINET",
  "1F5C5aEMPTY NOTEcPAGEcPADaNOTEbPAGEbPADaEMPTY DOCUMENTbPAGEbPAGESaDOCUMENTaPAGEaPAGES",
  "1F5D1aWASTEBASKETaSPIRAL NOTE PADbCALENDAR PADaDESKTOP WINDOWaMINIMIZEaMAXIMIZEaOVERLAP",
  "1F5D8aCLOCKWISE RIGHT AND LEFT SEMICIRCLE ARROWSaCANCELLATION XaINCREASE FONT SIZE SYMBOL",
  "1F5DBaDECREASE FONT SIZE SYMBOLaCOMPRESSIONaOLD KEYaROLLED-UP NEWSPAPER",
  "1F5DFaPAGE WITH CIRCLED TEXTaSTOCK CHARTaDAGGER KNIFEaLIPSaSPEAKING HEAD IN SILHOUETTE",
  "1F5E4aTHREE RAYS ABOVEcBELOWcLEFTcRIGHTaLEFT SPEECH BUBBLEaRIGHT SPEECH BUBBLE",
  "1F5EAaTWO SPEECH BUBBLESaTHREE SPEECH BUBBLESaLEFT THOUGHT BUBBLEaRIGHT THOUGHT BUBBLE",
  "1F5EEaLEFT ANGER BUBBLEaRIGHT ANGER BUBBLEaMOOD BUBBLEaLIGHTNING MOOD BUBBLEc",
  "1F5F3aBALLOT BOX WITH BALLOTbSCRIPT XbBOX WITH SCRIPT XbBOLD SCRIPT XbBOX WITH BOLD SCRIPT X",
  "1F5F8aLIGHT CHECK MARKaBALLOT BOX WITH BOLD CHECKaWORLD MAPaMOUNT FUJIaTOKYO TOWER",
  "1F5FDaSTATUE OF LIBERTYaSILHOUETTE OF JAPANaMOYAIaGRINNING FACEcWITH SMILING EYES",
  "1F602aFACE WITH TEARS OF JOYaSMILING FACE WITH OPEN MOUTHfAND SMILING EYESgCOLD SWEAT",
  "1F606gTIGHTLY-CLOSED EYESdHALOdHORNSaWINKING FACEaSMILING FACE WITH SMILING EYES",
  "1F60BaFACE SAVOURING DELICIOUS FOODaRELIEVED FACEaSMILING FACE WITH HEART-SHAPED EYES",
  "1F60EdSUNGLASSESaSMIRKING FACEaNEUTRAL FACEaEXPRESSIONLESS FACEaUNAMUSED FACE",
  "1F613aFACE WITH COLD SWEATaPENSIVE FACEaCONFUSED FACEaCONFOUNDED FACEaKISSING FACE",
  "1F618aFACE THROWING A KISSaKISSING FACE WITH SMILING EYESdCLOSED EYES",
  "1F61BaFACE WITH STUCK-OUT TONGUEeAND WINKING EYEfTIGHTLY-CLOSED EYESaDISAPPOINTED FACE",
  "1F61FaWORRIED FACEaANGRY FACEaPOUTING FACEaCRYING FACEaPERSEVERING FACE",
  "1F624aFACE WITH LOOK OF TRIUMPHaDISAPPOINTED BUT RELIEVED FACEaFROWNING FACE WITH OPEN MOUTH",
  "1F627aANGUISHED FACEaFEARFUL FACEaWEARY FACEaSLEEPY FACEaTIRED FACEaGRIMACING FACE",
  "1F62DaLOUDLY CRYING FACEaFACE WITH OPEN MOUTHaHUSHED FACE",
  "1F630aFACE WITH OPEN MOUTH AND COLD SWEATbSCREAMING IN FEARaASTONISHED FACEaFLUSHED FACE",
  "1F634aSLEEPING FACEaDIZZY FACEaFACE WITHOUT MOUTHbWITH MEDICAL MASK",
  "1F638aGRINNING CAT FACE WITH SMILING EYESaCAT FACE WITH TEARS OF JOY",
  "1F63AaSMILING CAT FACE WITH OPEN MOUTHeHEART-SHAPED EYESaCAT FACE WITH WRY SMILE",
  "1F63DaKISSING CAT FACE WITH CLOSED EYESaPOUTING CAT FACEaCRYING CAT FACEaWEARY CAT FACE",
  "1F641aSLIGHTLY FROWNING FACEbSMILING FACEaUPSIDE-DOWN FACEaFACE WITH ROLLING EYES",
  "1F645cNO GOOD GESTUREcOK GESTUREaPERSON BOWING DEEPLYaSEE-NO-EVIL MONKEYaHEAR-NO-EVIL MONKEY",
  "1F64AaSPEAK-NO-EVIL MONKEYaHAPPY PERSON RAISING ONE HAND",
  "1F64CaPERSON RAISING BOTH HANDS IN CELEBRATIONbFROWNINGbWITH POUTING FACEcFOLDED HANDS",
  "1F650aNORTH WEST POINTING LEAFaSOUTH WEST POINTING LEAFaNORTH EAST POINTING LEAF",
  "1F653aSOUTH EAST POINTING LEAFaTURNED NORTH WEST POINTING LEAFbSOUTH WEST POINTING LEAF",
  "1F656bNORTH EAST POINTING LEAFbSOUTH EAST POINTING LEAFaNORTH WEST POINTING VINE LEAF",
  "1F659aSOUTH WEST POINTING VINE LEAFaNORTH EAST POINTING VINE LEAF",
  "1F65BaSOUTH EAST POINTING VINE LEAFaHEAVY NORTH WEST POINTING VINE LEAF",
  "1F65DbSOUTH WEST POINTING VINE LEAFbNORTH EAST POINTING VINE LEAF",
  "1F65FbSOUTH EAST POINTING VINE LEAFaNORTH WEST POINTING BUDaSOUTH WEST POINTING BUD",
  "1F662aNORTH EAST POINTING BUDaSOUTH EAST POINTING BUDaHEAVY NORTH WEST POINTING BUD",
  "1F665bSOUTH WEST POINTING BUDbNORTH EAST POINTING BUDbSOUTH EAST POINTING BUD",
  "1F668aHOLLOW QUILT SQUARE ORNAMENTeIN BLACK SQUAREaSOLID QUILT SQUARE ORNAMENT",
  "1F66BeIN BLACK SQUAREaLEFTWARDS ROCKETaUPWARDS ROCKETaRIGHTWARDS ROCKETaDOWNWARDS ROCKET",
  "1F670aSCRIPT LIGATURE ET ORNAMENTaHEAVY SCRIPT LIGATURE ET ORNAMENT",
  "1F672aLIGATURE OPEN ET ORNAMENTaHEAVY LIGATURE OPEN ET ORNAMENTbAMPERSAND ORNAMENT",
  "1F675aSWASH AMPERSAND ORNAMENTaSANS-SERIF HEAVY DOUBLE TURNED COMMA QUOTATION MARK ORNAMENT",
  "1F677dCOMMA QUOTATION MARK ORNAMENTcLOW DOUBLE COMMA QUOTATION MARK ORNAMENT",
  "1F679aHEAVY INTERROBANG ORNAMENTaSANS-SERIF INTERROBANG ORNAMENT",
  "1F67BaHEAVY SANS-SERIF INTERROBANG ORNAMENTaVERY HEAVY SOLIDUScREVERSE SOLIDUSaCHECKER BOARD",
  "1F67FaREVERSE CHECKER BOARDaROCKETaHELICOPTERaSTEAM LOCOMOTIVEaRAILWAY CARaHIGH-SPEED TRAIN",
  "1F685cWITH BULLET NOSEaTRAINaMETROaLIGHT RAILaSTATIONaTRAMbCARaBUSaONCOMING BUSaTROLLEYBUS",
  "1F68FaBUS STOPaMINIBUSaAMBULANCEaFIRE ENGINEaPOLICE CARaONCOMING POLICE CARaTAXI",
  "1F696aONCOMING TAXIaAUTOMOBILEaONCOMING AUTOMOBILEaRECREATIONAL VEHICLEaDELIVERY TRUCK",
  "1F69BaARTICULATED LORRYaTRACTORaMONORAILaMOUNTAIN RAILWAYaSUSPENSION RAILWAY",
  "1F6A0aMOUNTAIN CABLEWAYaAERIAL TRAMWAYaSHIPaROWBOATaSPEEDBOATaHORIZONTAL TRAFFIC LIGHT",
  "1F6A6aVERTICAL TRAFFIC LIGHTaCONSTRUCTION SIGNaPOLICE CARS REVOLVING LIGHT",
  "1F6A9aTRIANGULAR FLAG ON POSTaDOORaNO ENTRY SIGNaSMOKING SYMBOLaNO SMOKING SYMBOL",
  "1F6AEaPUT LITTER IN ITS PLACE SYMBOLaDO NOT LITTER SYMBOLaPOTABLE WATER SYMBOL",
  "1F6B1aNON-POTABLE WATER SYMBOLaBICYCLEaNO BICYCLESaBICYCLISTaMOUNTAIN BICYCLISTaPEDESTRIAN",
  "1F6B7aNO PEDESTRIANSaCHILDREN CROSSINGaMENS SYMBOLaWOMENS SYMBOLaRESTROOMaBABY SYMBOLaTOILET",
  "1F6BEaWATER CLOSETaSHOWERaBATHaBATHTUBaPASSPORT CONTROLaCUSTOMSaBAGGAGE CLAIMaLEFT LUGGAGE",
  "1F6C6aTRIANGLE WITH ROUNDED CORNERSaPROHIBITED SIGNaCIRCLED INFORMATION SOURCEaBOYS SYMBOL",
  "1F6CAaGIRLS SYMBOLaCOUCH AND LAMPaSLEEPING ACCOMMODATIONaSHOPPING BAGSaBELLHOP BELLaBED",
  "1F6D0aPLACE OF WORSHIPaOCTAGONAL SIGNaSHOPPING TROLLEYaSTUPAaPAGODAaHINDU TEMPLEaHUT",
  "1F6D7aELEVATOR",
  "1F6DDaPLAYGROUND SLIDEaWHEELaRING BUOYaHAMMER AND WRENCHaSHIELDaOIL DRUMaMOTORWAY",
  "1F6E4aRAILWAY TRACKaMOTOR BOATaUP-POINTING MILITARY AIRPLANEbAIRPLANEbSMALL AIRPLANE",
  "1F6E9aSMALL AIRPLANEaNORTHEAST-POINTING AIRPLANEaAIRPLANE DEPARTUREbARRIVING",
  "1F6F0aSATELLITEaONCOMING FIRE ENGINEaDIESEL LOCOMOTIVEaPASSENGER SHIPaSCOOTERaMOTOR SCOOTER",
  "1F6F6aCANOEaSLEDaFLYING SAUCERaSKATEBOARDaAUTO RICKSHAWaPICKUP TRUCKaROLLER SKATE",
  "1F700aALCHEMICAL SYMBOL FOR QUINTESSENCEdAIRdFIREdEARTHdWATERdAQUAFORTISdAQUA REGIAeREGIA-2",
  "1F708eVITAEeVITAE-2dVINEGARdVINEGAR-2dVINEGAR-3dSULFURdPHILOSOPHERS SULFURdBLACK SULFUR",
  "1F710dMERCURY SUBLIMATEeSUBLIMATE-2eSUBLIMATE-3dCINNABARdSALTdNITREdVITRIOLdVITRIOL-2",
  "1F718dROCK SALTeSALT-2dGOLDdSILVERdIRON OREeORE-2dCROCUS OF IRONdREGULUS OF IRONdCOPPER ORE",
  "1F721dIRON-COPPER OREdSUBLIMATE OF COPPERdCROCUS OF COPPERfCOPPER-2dCOPPER ANTIMONIATE",
  "1F726dSALT OF COPPER ANTIMONIATEdSUBLIMATE OF SALT OF COPPERdVERDIGRISdTIN OREdLEAD ORE",
  "1F72BdANTIMONY OREdSUBLIMATE OF ANTIMONYdSALT OF ANTIMONYdSUBLIMATE OF SALT OF ANTIMONY",
  "1F72FdVINEGAR OF ANTIMONYdREGULUS OF ANTIMONYfANTIMONY-2edREGULUS-2dREGULUS-3dREGULUS-4",
  "1F736dALKALIdALKALI-2dMARCASITEdSAL-AMMONIACdARSENICdREALGARdREALGAR-2dAURIPIGMENT",
  "1F73EdBISMUTH OREdTARTARdTARTAR-2dQUICK LIMEdBORAXdBORAX-2dBORAX-3dALUMdOILdSPIRITdTINCTURE",
  "1F749dGUMdWAXdPOWDERdCALXdTUTTYdCAPUT MORTUUMdSCEPTER OF JOVEdCADUCEUSdTRIDENT",
  "1F752dSTARRED TRIDENTdLODESTONEdSOAPdURINEdHORSE DUNGdASHESdPOT ASHESdBRICKdPOWDERED BRICK",
  "1F75BdAMALGAMdSTRATUM SUPER STRATUMfSTRATUM-2dSUBLIMATIONdPRECIPITATEdDISTILLdDISSOLVE",
  "1F762dDISSOLVE-2dPURIFYdPUTREFACTIONdCRUCIBLEdCRUCIBLE-2dCRUCIBLE-3dCRUCIBLE-4dCRUCIBLE-5",
  "1F76AdALEMBICdBATH OF MARYfVAPOURSdRETORTdHOURdNIGHTdDAY-NIGHTdMONTHdHALF DRAMeOUNCE",
  "1F780aBLACK LEFT-POINTING ISOSCELES RIGHT TRIANGLEbUP-POINTING ISOSCELES RIGHT TRIANGLE",
  "1F782bRIGHT-POINTING ISOSCELES RIGHT TRIANGLEbDOWN-POINTING ISOSCELES RIGHT TRIANGLE",
  "1F784bSLIGHTLY SMALL CIRCLEaMEDIUM BOLD WHITE CIRCLEaBOLD WHITE CIRCLEaHEAVY WHITE CIRCLE",
  "1F788aVERY HEAVY WHITE CIRCLEaEXTREMELY HEAVY WHITE CIRCLE",
  "1F78AaWHITE CIRCLE CONTAINING BLACK SMALL CIRCLEaROUND TARGETaBLACK TINY SQUARE",
  "1F78DbSLIGHTLY SMALL SQUAREaLIGHT WHITE SQUAREaMEDIUM WHITE SQUAREaBOLD WHITE SQUARE",
  "1F791aHEAVY WHITE SQUAREaVERY HEAVY WHITE SQUAREaEXTREMELY HEAVY WHITE SQUARE",
  "1F794aWHITE SQUARE CONTAINING BLACK VERY SMALL SQUAREeMEDIUM SQUAREaSQUARE TARGET",
  "1F797aBLACK TINY DIAMONDbVERY SMALL DIAMONDbMEDIUM SMALL DIAMOND",
  "1F79AaWHITE DIAMOND CONTAINING BLACK VERY SMALL DIAMONDeMEDIUM DIAMONDaDIAMOND TARGET",
  "1F79DaBLACK TINY LOZENGEbVERY SMALL LOZENGEbMEDIUM SMALL LOZENGE",
  "1F7A0aWHITE LOZENGE CONTAINING BLACK SMALL LOZENGEaTHIN GREEK CROSSaLIGHT GREEK CROSS",
  "1F7A3aMEDIUM GREEK CROSSaBOLD GREEK CROSSaVERY BOLD GREEK CROSSbHEAVY GREEK CROSS",
  "1F7A7aEXTREMELY HEAVY GREEK CROSSaTHIN SALTIREaLIGHT SALTIREaMEDIUM SALTIREaBOLD SALTIRE",
  "1F7ACaHEAVY SALTIREaVERY HEAVY SALTIREaEXTREMELY HEAVY SALTIREaLIGHT FIVE SPOKED ASTERISK",
  "1F7B0aMEDIUM FIVE SPOKED ASTERISKaBOLD FIVE SPOKED ASTERISKaHEAVY FIVE SPOKED ASTERISK",
  "1F7B3aVERY HEAVY FIVE SPOKED ASTERISKaEXTREMELY HEAVY FIVE SPOKED ASTERISK",
  "1F7B5aLIGHT SIX SPOKED ASTERISKaMEDIUM SIX SPOKED ASTERISKaBOLD SIX SPOKED ASTERISK",
  "1F7B8aHEAVY SIX SPOKED ASTERISKaVERY HEAVY SIX SPOKED ASTERISK",
  "1F7BAaEXTREMELY HEAVY SIX SPOKED ASTERISKaLIGHT EIGHT SPOKED ASTERISK",
  "1F7BCaMEDIUM EIGHT SPOKED ASTERISKaBOLD EIGHT SPOKED ASTERISKaHEAVY EIGHT SPOKED ASTERISK",
  "1F7BFaVERY HEAVY EIGHT SPOKED ASTERISKaLIGHT THREE POINTED BLACK STAR",
  "1F7C1aMEDIUM THREE POINTED BLACK STARaTHREE POINTED BLACK STAR",
  "1F7C3aMEDIUM THREE POINTED PINWHEEL STARaLIGHT FOUR POINTED BLACK STAR",
  "1F7C5aMEDIUM FOUR POINTED BLACK STARaFOUR POINTED BLACK STAR",
  "1F7C7aMEDIUM FOUR POINTED PINWHEEL STARaREVERSE LIGHT FOUR POINTED PINWHEEL STAR",
  "1F7C9aLIGHT FIVE POINTED BLACK STARaHEAVY FIVE POINTED BLACK STAR",
  "1F7CBaMEDIUM SIX POINTED BLACK STARaHEAVY SIX POINTED BLACK STARaSIX POINTED PINWHEEL STAR",
  "1F7CEaMEDIUM EIGHT POINTED BLACK STARaHEAVY EIGHT POINTED BLACK STAR",
  "1F7D0aVERY HEAVY EIGHT POINTED BLACK STARaHEAVY EIGHT POINTED PINWHEEL STAR",
  "1F7D2aLIGHT TWELVE POINTED BLACK STARaHEAVY TWELVE POINTED BLACK STARdPINWHEEL STAR",
  "1F7D5aCIRCLED TRIANGLEaNEGATIVE CIRCLED TRIANGLEaCIRCLED SQUAREaNEGATIVE CIRCLED SQUARE",
  "1F7E0aLARGE ORANGE CIRCLEbYELLOW CIRCLEbGREEN CIRCLEbPURPLE CIRCLEbBROWN CIRCLEbRED SQUARE",
  "1F7E6bBLUE SQUAREbORANGE SQUAREbYELLOW SQUAREbGREEN SQUAREbPURPLE SQUAREbBROWN SQUARE",
  "1F7F0aHEAVY EQUALS SIGN",
  "1F800aLEFTWARDS ARROW WITH SMALL TRIANGLE ARROWHEAD",
  "1F801aUPWARDS ARROW WITH SMALL TRIANGLE ARROWHEAD",
  "1F802aRIGHTWARDS ARROW WITH SMALL TRIANGLE ARROWHEAD",
  "1F803aDOWNWARDS ARROW WITH SMALL TRIANGLE ARROWHEAD",
  "1F804aLEFTWARDS ARROW WITH MEDIUM TRIANGLE ARROWHEAD",
  "1F805aUPWARDS ARROW WITH MEDIUM TRIANGLE ARROWHEAD",
  "1F806aRIGHTWARDS ARROW WITH MEDIUM TRIANGLE ARROWHEAD",
  "1F807aDOWNWARDS ARROW WITH MEDIUM TRIANGLE ARROWHEAD",
  "1F808aLEFTWARDS ARROW WITH LARGE TRIANGLE ARROWHEAD",
  "1F809aUPWARDS ARROW WITH LARGE TRIANGLE ARROWHEAD",
  "1F80AaRIGHTWARDS ARROW WITH LARGE TRIANGLE ARROWHEAD",
  "1F80BaDOWNWARDS ARROW WITH LARGE TRIANGLE ARROWHEAD",
  "1F810aLEFTWARDS ARROW WITH SMALL EQUILATERAL ARROWHEAD",
  "1F811aUPWARDS ARROW WITH SMALL EQUILATERAL ARROWHEAD",
  "1F812aRIGHTWARDS ARROW WITH SMALL EQUILATERAL ARROWHEAD",
  "1F813aDOWNWARDS ARROW WITH SMALL EQUILATERAL ARROWHEAD",
  "1F814aLEFTWARDS ARROW WITH EQUILATERAL ARROWHEADaUPWARDS ARROW WITH EQUILATERAL ARROWHEAD",
  "1F816aRIGHTWARDS ARROW WITH EQUILATERAL ARROWHEADaDOWNWARDS ARROW WITH EQUILATERAL ARROWHEAD",
  "1F818aHEAVY LEFTWARDS ARROW WITH EQUILATERAL ARROWHEAD",
  "1F819bUPWARDS ARROW WITH EQUILATERAL ARROWHEADbRIGHTWARDS ARROW WITH EQUILATERAL ARROWHEAD",
  "1F81BbDOWNWARDS ARROW WITH EQUILATERAL ARROWHEAD",
  "1F81CbLEFTWARDS ARROW WITH LARGE EQUILATERAL ARROWHEAD",
  "1F81DbUPWARDS ARROW WITH LARGE EQUILATERAL ARROWHEAD",
  "1F81EbRIGHTWARDS ARROW WITH LARGE EQUILATERAL ARROWHEAD",
  "1F81FbDOWNWARDS ARROW WITH LARGE EQUILATERAL ARROWHEAD",
  "1F820aLEFTWARDS TRIANGLE-HEADED ARROW WITH NARROW SHAFT",
  "1F821aUPWARDS TRIANGLE-HEADED ARROW WITH NARROW SHAFT",
  "1F822aRIGHTWARDS TRIANGLE-HEADED ARROW WITH NARROW SHAFT",
  "1F823aDOWNWARDS TRIANGLE-HEADED ARROW WITH NARROW SHAFT",
  "1F824aLEFTWARDS TRIANGLE-HEADED ARROW WITH MEDIUM SHAFT",
  "1F825aUPWARDS TRIANGLE-HEADED ARROW WITH MEDIUM SHAFT",
  "1F826aRIGHTWARDS TRIANGLE-HEADED ARROW WITH MEDIUM SHAFT",
  "1F827aDOWNWARDS TRIANGLE-HEADED ARROW WITH MEDIUM SHAFT",
  "1F828aLEFTWARDS TRIANGLE-HEADED ARROW WITH BOLD SHAFT",
  "1F829aUPWARDS TRIANGLE-HEADED ARROW WITH BOLD SHAFT",
  "1F82AaRIGHTWARDS TRIANGLE-HEADED ARROW WITH BOLD SHAFT",
  "1F82BaDOWNWARDS TRIANGLE-HEADED ARROW WITH BOLD SHAFT",
  "1F82CaLEFTWARDS TRIANGLE-HEADED ARROW WITH HEAVY SHAFT",
  "1F82DaUPWARDS TRIANGLE-HEADED ARROW WITH HEAVY SHAFT",
  "1F82EaRIGHTWARDS TRIANGLE-HEADED ARROW WITH HEAVY SHAFT",
  "1F82FaDOWNWARDS TRIANGLE-HEADED ARROW WITH HEAVY SHAFT",
  "1F830aLEFTWARDS TRIANGLE-HEADED ARROW WITH VERY HEAVY SHAFT",
  "1F831aUPWARDS TRIANGLE-HEADED ARROW WITH VERY HEAVY SHAFT",
  "1F832aRIGHTWARDS TRIANGLE-HEADED ARROW WITH VERY HEAVY SHAFT",
  "1F833aDOWNWARDS TRIANGLE-HEADED ARROW WITH VERY HEAVY SHAFTaLEFTWARDS FINGER-POST ARROW",
  "1F835aUPWARDS FINGER-POST ARROWaRIGHTWARDS FINGER-POST ARROWaDOWNWARDS FINGER-POST ARROW",
  "1F838aLEFTWARDS SQUARED ARROWaUPWARDS SQUARED ARROWaRIGHTWARDS SQUARED ARROW",
  "1F83BaDOWNWARDS SQUARED ARROWaLEFTWARDS COMPRESSED ARROWaUPWARDS COMPRESSED ARROW",
  "1F83EaRIGHTWARDS COMPRESSED ARROWaDOWNWARDS COMPRESSED ARROW",
  "1F840aLEFTWARDS HEAVY COMPRESSED ARROWaUPWARDS HEAVY COMPRESSED ARROW",
  "1F842aRIGHTWARDS HEAVY COMPRESSED ARROWaDOWNWARDS HEAVY COMPRESSED ARROW",
  "1F844aLEFTWARDS HEAVY ARROWaUPWARDS HEAVY ARROWaRIGHTWARDS HEAVY ARROWaDOWNWARDS HEAVY ARROW",
  "1F850aLEFTWARDS SANS-SERIF ARROWaUPWARDS SANS-SERIF ARROWaRIGHTWARDS SANS-SERIF ARROW",
  "1F853aDOWNWARDS SANS-SERIF ARROWaNORTH WEST SANS-SERIF ARROWbEAST SANS-SERIF ARROW",
  "1F856aSOUTH EAST SANS-SERIF ARROWbWEST SANS-SERIF ARROWaLEFT RIGHT SANS-SERIF ARROW",
  "1F859aUP DOWN SANS-SERIF ARROW",
  "1F860aWIDE-HEADED LEFTWARDS LIGHT BARB ARROWbUPWARDS LIGHT BARB ARROW",
  "1F862bRIGHTWARDS LIGHT BARB ARROWbDOWNWARDS LIGHT BARB ARROWbNORTH WEST LIGHT BARB ARROW",
  "1F865cEAST LIGHT BARB ARROWbSOUTH EAST LIGHT BARB ARROWcWEST LIGHT BARB ARROW",
  "1F868bLEFTWARDS BARB ARROWbUPWARDS BARB ARROWbRIGHTWARDS BARB ARROWbDOWNWARDS BARB ARROW",
  "1F86CbNORTH WEST BARB ARROWcEAST BARB ARROWbSOUTH EAST BARB ARROWcWEST BARB ARROW",
  "1F870bLEFTWARDS MEDIUM BARB ARROWbUPWARDS MEDIUM BARB ARROWbRIGHTWARDS MEDIUM BARB ARROW",
  "1F873bDOWNWARDS MEDIUM BARB ARROWbNORTH WEST MEDIUM BARB ARROWcEAST MEDIUM BARB ARROW",
  "1F876bSOUTH EAST MEDIUM BARB ARROWcWEST MEDIUM BARB ARROWbLEFTWARDS HEAVY BARB ARROW",
  "1F879bUPWARDS HEAVY BARB ARROWbRIGHTWARDS HEAVY BARB ARROWbDOWNWARDS HEAVY BARB ARROW",
  "1F87CbNORTH WEST HEAVY BARB ARROWcEAST HEAVY BARB ARROWbSOUTH EAST HEAVY BARB ARROW",
  "1F87FcWEST HEAVY BARB ARROWbLEFTWARDS VERY HEAVY BARB ARROWbUPWARDS VERY HEAVY BARB ARROW",
  "1F882bRIGHTWARDS VERY HEAVY BARB ARROWbDOWNWARDS VERY HEAVY BARB ARROW",
  "1F884bNORTH WEST VERY HEAVY BARB ARROWcEAST VERY HEAVY BARB ARROW",
  "1F886bSOUTH EAST VERY HEAVY BARB ARROWcWEST VERY HEAVY BARB ARROW",
  "1F890aLEFTWARDS TRIANGLE ARROWHEADaUPWARDS TRIANGLE ARROWHEADaRIGHTWARDS TRIANGLE ARROWHEAD",
  "1F893aDOWNWARDS TRIANGLE ARROWHEADaLEFTWARDS WHITE ARROW WITHIN TRIANGLE ARROWHEAD",
  "1F895aUPWARDS WHITE ARROW WITHIN TRIANGLE ARROWHEAD",
  "1F896aRIGHTWARDS WHITE ARROW WITHIN TRIANGLE ARROWHEAD",
  "1F897aDOWNWARDS WHITE ARROW WITHIN TRIANGLE ARROWHEADaLEFTWARDS ARROW WITH NOTCHED TAIL",
  "1F899aUPWARDS ARROW WITH NOTCHED TAILaRIGHTWARDS ARROW WITH NOTCHED TAIL",
  "1F89BaDOWNWARDS ARROW WITH NOTCHED TAILaHEAVY ARROW SHAFT WIDTH ONEeTWO THIRDSeONE HALF",
  "1F89FfTHIRDaLEFTWARDS BOTTOM-SHADED WHITE ARROWaRIGHTWARDS BOTTOM SHADED WHITE ARROW",
  "1F8A2aLEFTWARDS TOP SHADED WHITE ARROWaRIGHTWARDS TOP SHADED WHITE ARROW",
  "1F8A4aLEFTWARDS LEFT-SHADED WHITE ARROWaRIGHTWARDS RIGHT-SHADED WHITE ARROW",
  "1F8A6aLEFTWARDS RIGHT-SHADED WHITE ARROWaRIGHTWARDS LEFT-SHADED WHITE ARROW",
  "1F8A8aLEFTWARDS BACK-TILTED SHADOWED WHITE ARROWaRIGHTWARDS BACK-TILTED SHADOWED WHITE ARROW",
  "1F8AAaLEFTWARDS FRONT-TILTED SHADOWED WHITE ARROW",
  "1F8ABaRIGHTWARDS FRONT-TILTED SHADOWED WHITE ARROWaWHITE ARROW SHAFT WIDTH ONEeTWO THIRDS",
  "1F8B0aARROW POINTING UPWARDS THEN NORTH WESTcRIGHTWARDS THEN CURVING SOUTH WEST",
  "1F900aCIRCLED CROSS FORMEE WITH FOUR DOTSeTWO DOTSdaLEFT HALF CIRCLE WITH FOUR DOTS",
  "1F904eTHREE DOTSeTWO DOTSeDOTdaDOWNWARD FACING HOOKcNOTCHED HOOKcHOOK WITH DOT",
  "1F90BcNOTCHED HOOK WITH DOTaPINCHED FINGERSaWHITE HEARTaBROWN HEARTaPINCHING HAND",
  "1F910aZIPPER-MOUTH FACEaMONEY-MOUTH FACEaFACE WITH THERMOMETERaNERD FACEaTHINKING FACE",
  "1F915aFACE WITH HEAD-BANDAGEaROBOT FACEaHUGGING FACEaSIGN OF THE HORNSaCALL ME HAND",
  "1F91AaRAISED BACK OF HANDaLEFT-FACING FISTaRIGHT-FACING FISTaHANDSHAKE",
  "1F91EaHAND WITH INDEX AND MIDDLE FINGERS CROSSEDaI LOVE YOU HAND SIGNaFACE WITH COWBOY HAT",
  "1F921aCLOWN FACEaNAUSEATED FACEaROLLING ON THE FLOOR LAUGHINGaDROOLING FACEaLYING FACE",
  "1F926aFACE PALMaSNEEZING FACEaFACE WITH ONE EYEBROW RAISEDaGRINNING FACE WITH STAR EYES",
  "1F92AdONE LARGE AND ONE SMALL EYEaFACE WITH FINGER COVERING CLOSED LIPS",
  "1F92CaSERIOUS FACE WITH SYMBOLS COVERING MOUTH",
  "1F92DaSMILING FACE WITH SMILING EYES AND HAND COVERING MOUTHaFACE WITH OPEN MOUTH VOMITING",
  "1F92FaSHOCKED FACE WITH EXPLODING HEADaPREGNANT WOMANaBREAST-FEEDINGaPALMS UP TOGETHER",
  "1F933aSELFIEaPRINCEaMAN IN TUXEDOaMOTHER CHRISTMASaSHRUGaPERSON DOING CARTWHEELaJUGGLING",
  "1F93AaFENCERaMODERN PENTATHLONaWRESTLERSaWATER POLOaHANDBALLaDIVING MASKaWILTED FLOWER",
  "1F941aDRUM WITH DRUMSTICKSaCLINKING GLASSESaTUMBLER GLASSaSPOONaGOAL NETaRIFLE",
  "1F947aFIRST PLACE MEDALaSECOND PLACE MEDALaTHIRD PLACE MEDALaBOXING GLOVE",
  "1F94BaMARTIAL ARTS UNIFORMaCURLING STONEaLACROSSE STICK AND BALLaSOFTBALLaFLYING DISC",
  "1F950aCROISSANTaAVOCADOaCUCUMBERaBACONaPOTATOaCARROTaBAGUETTE BREADaGREEN SALAD",
  "1F958aSHALLOW PAN OF FOODaSTUFFED FLATBREADaEGGaGLASS OF MILKaPEANUTSaKIWIFRUITaPANCAKES",
  "1F95FaDUMPLINGaFORTUNE COOKIEaTAKEOUT BOXaCHOPSTICKSaBOWL WITH SPOONaCUP WITH STRAWaCOCONUT",
  "1F966aBROCCOLIaPIEaPRETZELaCUT OF MEATaSANDWICHaCANNED FOODaLEAFY GREENaMANGOaMOON CAKE",
  "1F96FaBAGELaSMILING FACE WITH SMILING EYES AND THREE HEARTSaYAWNING FACE",
  "1F972aSMILING FACE WITH TEARaFACE WITH PARTY HORN AND PARTY HATcUNEVEN EYES AND WAVY MOUTH",
  "1F975aOVERHEATED FACEaFREEZING FACEaNINJAaDISGUISED FACEaFACE HOLDING BACK TEARS",
  "1F97AbWITH PLEADING EYESaSARIaLAB COATaGOGGLESaHIKING BOOTaFLAT SHOEaCRABaLION FACEaSCORPION",
  "1F983aTURKEYaUNICORN FACEaEAGLEaDUCKaBATaSHARKaOWLaFOX FACEaBUTTERFLYaDEERaGORILLAaLIZARD",
  "1F98FaRHINOCEROSaSHRIMPaSQUIDaGIRAFFE FACEaZEBRA FACEaHEDGEHOGaSAUROPODaT-REXaCRICKET",
  "1F998aKANGAROOaLLAMAaPEACOCKaHIPPOPOTAMUSaPARROTaRACCOONaLOBSTERaMOSQUITOaMICROBEaBADGER",
  "1F9A2aSWANaMAMMOTHaDODOaSLOTHaOTTERaORANGUTANaSKUNKaFLAMINGOaOYSTERaBEAVERaBISONaSEAL",
  "1F9AEaGUIDE DOGaPROBING CANEaEMOJI COMPONENT RED HAIRcCURLY HAIRcBALDcWHITE HAIRaBONEaLEG",
  "1F9B6aFOOTaTOOTHaSUPERHEROaSUPERVILLAINaSAFETY VESTaEAR WITH HEARING AID",
  "1F9BCaMOTORIZED WHEELCHAIRaMANUAL WHEELCHAIRaMECHANICAL ARMbLEGaCHEESE WEDGEaCUPCAKE",
  "1F9C2aSALT SHAKERaBEVERAGE BOXaGARLICaONIONaFALAFELaWAFFLEaBUTTERaMATE DRINKaICE CUBE",
  "1F9CBaBUBBLE TEAaTROLLaSTANDING PERSONaKNEELING PERSONaDEAF PERSONaFACE WITH MONOCLEaADULT",
  "1F9D2aCHILDaOLDER ADULTaBEARDED PERSONaPERSON WITH HEADSCARFbIN STEAMY ROOMbCLIMBING",
  "1F9D8bIN LOTUS POSITIONaMAGEaFAIRYaVAMPIREaMERPERSONaELFaGENIEaZOMBIEaBRAINaORANGE HEART",
  "1F9E2aBILLED CAPaSCARFaGLOVESaCOATaSOCKSaRED GIFT ENVELOPEaFIRECRACKERaJIGSAW PUZZLE PIECE",
  "1F9EAaTEST TUBEaPETRI DISHaDNA DOUBLE HELIXaCOMPASSaABACUSaFIRE EXTINGUISHERaTOOLBOXaBRICK",
  "1F9F2aMAGNETaLUGGAGEaLOTION BOTTLEaSPOOL OF THREADaBALL OF YARNaSAFETY PINaTEDDY BEARaBROOM",
  "1F9FAaBASKETaROLL OF PAPERaBAR OF SOAPaSPONGEaRECEIPTaNAZAR AMULETaNEUTRAL CHESS KINGcQUEEN",
  "1FA02cROOKcBISHOPcKNIGHTcPAWNaWHITE CHESS KNIGHT ROTATED FORTY-FIVE DEGREES",
  "1FA07aBLACK CHESS KNIGHT ROTATED FORTY-FIVE DEGREES",
  "1FA08aNEUTRAL CHESS KNIGHT ROTATED FORTY-FIVE DEGREES",
  "1FA09aWHITE CHESS KING ROTATED NINETY DEGREEScQUEEN ROTATED NINETY DEGREES",
  "1FA0BcROOK ROTATED NINETY DEGREEScBISHOP ROTATED NINETY DEGREES",
  "1FA0DcKNIGHT ROTATED NINETY DEGREEScPAWN ROTATED NINETY DEGREES",
  "1FA0FaBLACK CHESS KING ROTATED NINETY DEGREEScQUEEN ROTATED NINETY DEGREES",
  "1FA11cROOK ROTATED NINETY DEGREEScBISHOP ROTATED NINETY DEGREES",
  "1FA13cKNIGHT ROTATED NINETY DEGREEScPAWN ROTATED NINETY DEGREES",
  "1FA15aNEUTRAL CHESS KING ROTATED NINETY DEGREEScQUEEN ROTATED NINETY DEGREES",
  "1FA17cROOK ROTATED NINETY DEGREEScBISHOP ROTATED NINETY DEGREES",
  "1FA19cKNIGHT ROTATED NINETY DEGREEScPAWN ROTATED NINETY DEGREES",
  "1FA1BaWHITE CHESS KNIGHT ROTATED ONE HUNDRED THIRTY-FIVE DEGREES",
  "1FA1CaBLACK CHESS KNIGHT ROTATED ONE HUNDRED THIRTY-FIVE DEGREES",
  "1FA1DaNEUTRAL CHESS KNIGHT ROTATED ONE HUNDRED THIRTY-FIVE DEGREESaWHITE CHESS TURNED KING",
  "1FA1FdQUEENdROOKdBISHOPdKNIGHTdPAWNaBLACK CHESS TURNED KINGdQUEENdROOKdBISHOPdKNIGHTdPAWN",
  "1FA2AaNEUTRAL CHESS TURNED KINGdQUEENdROOKdBISHOPdKNIGHTdPAWN",
  "1FA30aWHITE CHESS KNIGHT ROTATED TWO HUNDRED TWENTY-FIVE DEGREES",
  "1FA31aBLACK CHESS KNIGHT ROTATED TWO HUNDRED TWENTY-FIVE DEGREES",
  "1FA32aNEUTRAL CHESS KNIGHT ROTATED TWO HUNDRED TWENTY-FIVE DEGREES",
  "1FA33aWHITE CHESS KING ROTATED TWO HUNDRED SEVENTY DEGREES",
  "1FA34cQUEEN ROTATED TWO HUNDRED SEVENTY DEGREEScROOK ROTATED TWO HUNDRED SEVENTY DEGREES",
  "1FA36cBISHOP ROTATED TWO HUNDRED SEVENTY DEGREEScKNIGHT ROTATED TWO HUNDRED SEVENTY DEGREES",
  "1FA38cPAWN ROTATED TWO HUNDRED SEVENTY DEGREES",
  "1FA39aBLACK CHESS KING ROTATED TWO HUNDRED SEVENTY DEGREES",
  "1FA3AcQUEEN ROTATED TWO HUNDRED SEVENTY DEGREEScROOK ROTATED TWO HUNDRED SEVENTY DEGREES",
  "1FA3CcBISHOP ROTATED TWO HUNDRED SEVENTY DEGREEScKNIGHT ROTATED TWO HUNDRED SEVENTY DEGREES",
  "1FA3EcPAWN ROTATED TWO HUNDRED SEVENTY DEGREES",
  "1FA3FaNEUTRAL CHESS KING ROTATED TWO HUNDRED SEVENTY DEGREES",
  "1FA40cQUEEN ROTATED TWO HUNDRED SEVENTY DEGREEScROOK ROTATED TWO HUNDRED SEVENTY DEGREES",
  "1FA42cBISHOP ROTATED TWO HUNDRED SEVENTY DEGREEScKNIGHT ROTATED TWO HUNDRED SEVENTY DEGREES",
  "1FA44cPAWN ROTATED TWO HUNDRED SEVENTY DEGREES",
  "1FA45aWHITE CHESS KNIGHT ROTATED THREE HUNDRED FIFTEEN DEGREES",
  "1FA46aBLACK CHESS KNIGHT ROTATED THREE HUNDRED FIFTEEN DEGREES",
  "1FA47aNEUTRAL CHESS KNIGHT ROTATED THREE HUNDRED FIFTEEN DEGREESaWHITE CHESS EQUIHOPPER",
  "1FA49aBLACK CHESS EQUIHOPPERaNEUTRAL CHESS EQUIHOPPER",
  "1FA4BaWHITE CHESS EQUIHOPPER ROTATED NINETY DEGREES",
  "1FA4CaBLACK CHESS EQUIHOPPER ROTATED NINETY DEGREES",
  "1FA4DaNEUTRAL CHESS EQUIHOPPER ROTATED NINETY DEGREESaWHITE CHESS KNIGHT-QUEENcKNIGHT-ROOK",
  "1FA50cKNIGHT-BISHOPaBLACK CHESS KNIGHT-QUEENcKNIGHT-ROOKcKNIGHT-BISHOP",
  "1FA60aXIANGQI RED GENERALcMANDARINcELEPHANTcHORSEcCHARIOTcCANNONcSOLDIERbBLACK GENERAL",
  "1FA68cMANDARINcELEPHANTcHORSEcCHARIOTcCANNONcSOLDIER",
  "1FA70aBALLET SHOESaONE-PIECE SWIMSUITaBRIEFSaSHORTSaTHONG SANDAL",
  "1FA78aDROP OF BLOODaADHESIVE BANDAGEaSTETHOSCOPEaX-RAYaCRUTCH",
  "1FA80aYO-YOaKITEaPARACHUTEaBOOMERANGaMAGIC WANDaPINATAaNESTING DOLLS",
  "1FA90aRINGED PLANETaCHAIRaRAZORaAXEaDIYA LAMPaBANJOaMILITARY HELMETaACCORDIONaLONG DRUMaCOIN",
  "1FA9AaCARPENTRY SAWaSCREWDRIVERaLADDERaHOOKaMIRRORaWINDOWaPLUNGERaSEWING NEEDLEaKNOTaBUCKET",
  "1FAA4aMOUSE TRAPaTOOTHBRUSHaHEADSTONEaPLACARDaROCKaMIRROR BALLaIDENTIFICATION CARD",
  "1FAABaLOW BATTERYaHAMSA",
  "1FAB0aFLYaWORMaBEETLEaCOCKROACHaPOTTED PLANTaWOODaFEATHERaLOTUSaCORALaEMPTY NEST",
  "1FABAaNEST WITH EGGS",
  "1FAC0aANATOMICAL HEARTaLUNGSaPEOPLE HUGGINGaPREGNANT MANbPERSONaPERSON WITH CROWN",
  "1FAD0aBLUEBERRIESaBELL PEPPERaOLIVEaFLATBREADaTAMALEaFONDUEaTEAPOTaPOURING LIQUIDaBEANSaJAR",
  "1FAE0aMELTING FACEaSALUTING FACEaFACE WITH OPEN EYES AND HAND OVER MOUTHcPEEKING EYE",
  "1FAE4cDIAGONAL MOUTHaDOTTED LINE FACEaBITING LIPaBUBBLES",
  "1FAF0aHAND WITH INDEX FINGER AND THUMB CROSSEDaRIGHTWARDS HANDaLEFTWARDS HANDaPALM DOWN HAND",
  "1FAF4bUP HANDaINDEX POINTING AT THE VIEWERaHEART HANDS",
  "1FB00aBLOCK SEXTANT-1bSEXTANT-2bSEXTANT-12bSEXTANT-3bSEXTANT-13bSEXTANT-23bSEXTANT-123",
  "1FB07bSEXTANT-4bSEXTANT-14bSEXTANT-24bSEXTANT-124bSEXTANT-34bSEXTANT-134bSEXTANT-234",
  "1FB0EbSEXTANT-1234bSEXTANT-5bSEXTANT-15bSEXTANT-25bSEXTANT-125bSEXTANT-35bSEXTANT-235",
  "1FB15bSEXTANT-1235bSEXTANT-45bSEXTANT-145bSEXTANT-245bSEXTANT-1245bSEXTANT-345bSEXTANT-1345",
  "1FB1CbSEXTANT-2345bSEXTANT-12345bSEXTANT-6bSEXTANT-16bSEXTANT-26bSEXTANT-126bSEXTANT-36",
  "1FB23bSEXTANT-136bSEXTANT-236bSEXTANT-1236bSEXTANT-46bSEXTANT-146bSEXTANT-1246bSEXTANT-346",
  "1FB2AbSEXTANT-1346bSEXTANT-2346bSEXTANT-12346bSEXTANT-56bSEXTANT-156bSEXTANT-256",
  "1FB30bSEXTANT-1256bSEXTANT-356bSEXTANT-1356bSEXTANT-2356bSEXTANT-12356bSEXTANT-456",
  "1FB36bSEXTANT-1456bSEXTANT-2456bSEXTANT-12456bSEXTANT-3456bSEXTANT-13456bSEXTANT-23456",
  "1FB3CaLOWER LEFT BLOCK DIAGONAL LOWER MIDDLE LEFT TO LOWER CENTREjRIGHT",
  "1FB3EeUPPER MIDDLE LEFT TO LOWER CENTREjRIGHTfLEFT TO LOWER CENTRE",
  "1FB41bRIGHT BLOCK DIAGONAL UPPER MIDDLE LEFT TO UPPER CENTREjRIGHT",
  "1FB43eLOWER MIDDLE LEFT TO UPPER CENTREjRIGHTfLEFT TO UPPER CENTRE",
  "1FB46fMIDDLE LEFT TO UPPER MIDDLE RIGHTfCENTRE TO LOWER MIDDLE RIGHT",
  "1FB48fLEFT TO LOWER MIDDLE RIGHTfCENTRE TO UPPER MIDDLE RIGHTfLEFT TO UPPER MIDDLE RIGHT",
  "1FB4BfCENTRE TO UPPER RIGHTbLEFT BLOCK DIAGONAL UPPER CENTRE TO UPPER MIDDLE RIGHT",
  "1FB4DfLEFT TO UPPER MIDDLE RIGHTfCENTRE TO LOWER MIDDLE RIGHTfLEFT TO LOWER MIDDLE RIGHT",
  "1FB50fCENTRE TO LOWER RIGHTfMIDDLE LEFT TO LOWER MIDDLE RIGHT",
  "1FB52aUPPER RIGHT BLOCK DIAGONAL LOWER MIDDLE LEFT TO LOWER CENTREjRIGHT",
  "1FB54eUPPER MIDDLE LEFT TO LOWER CENTREjRIGHTfLEFT TO LOWER CENTRE",
  "1FB57bLEFT BLOCK DIAGONAL UPPER MIDDLE LEFT TO UPPER CENTREjRIGHT",
  "1FB59eLOWER MIDDLE LEFT TO UPPER CENTREjRIGHTfLEFT TO UPPER CENTRE",
  "1FB5CfMIDDLE LEFT TO UPPER MIDDLE RIGHTfCENTRE TO LOWER MIDDLE RIGHT",
  "1FB5EfLEFT TO LOWER MIDDLE RIGHTfCENTRE TO UPPER MIDDLE RIGHTfLEFT TO UPPER MIDDLE RIGHT",
  "1FB61fCENTRE TO UPPER RIGHTbRIGHT BLOCK DIAGONAL UPPER CENTRE TO UPPER MIDDLE RIGHT",
  "1FB63fLEFT TO UPPER MIDDLE RIGHTfCENTRE TO LOWER MIDDLE RIGHTfLEFT TO LOWER MIDDLE RIGHT",
  "1FB66fCENTRE TO LOWER RIGHTfMIDDLE LEFT TO LOWER MIDDLE RIGHT",
  "1FB68bAND RIGHT AND LOWER TRIANGULAR THREE QUARTERS BLOCK",
  "1FB69aLEFT AND LOWER AND RIGHT TRIANGULAR THREE QUARTERS BLOCK",
  "1FB6AaUPPER AND LEFT AND LOWER TRIANGULAR THREE QUARTERS BLOCK",
  "1FB6BaLEFT AND UPPER AND RIGHT TRIANGULAR THREE QUARTERS BLOCKbTRIANGULAR ONE QUARTER BLOCK",
  "1FB6DaUPPER TRIANGULAR ONE QUARTER BLOCKaRIGHT TRIANGULAR ONE QUARTER BLOCK",
  "1FB6FaLOWER TRIANGULAR ONE QUARTER BLOCKaVERTICAL ONE EIGHTH BLOCK-2dBLOCK-3dBLOCK-4dBLOCK-5",
  "1FB74dBLOCK-6dBLOCK-7aHORIZONTAL ONE EIGHTH BLOCK-2dBLOCK-3dBLOCK-4dBLOCK-5dBLOCK-6dBLOCK-7",
  "1FB7CaLEFT AND LOWER ONE EIGHTH BLOCKcUPPER ONE EIGHTH BLOCK",
  "1FB7EaRIGHT AND UPPER ONE EIGHTH BLOCKcLOWER ONE EIGHTH BLOCK",
  "1FB80aUPPER AND LOWER ONE EIGHTH BLOCKaHORIZONTAL ONE EIGHTH BLOCK-1358",
  "1FB82aUPPER ONE QUARTER BLOCKbTHREE EIGHTHS BLOCKbFIVE EIGHTHS BLOCKbTHREE QUARTERS BLOCK",
  "1FB86bSEVEN EIGHTHS BLOCKaRIGHT ONE QUARTER BLOCKbTHREE EIGHTHS BLOCKbFIVE EIGHTHS BLOCK",
  "1FB8AbTHREE QUARTERS BLOCKbSEVEN EIGHTHS BLOCKaLEFT HALF MEDIUM SHADE",
  "1FB8DaRIGHT HALF MEDIUM SHADEaUPPER HALF MEDIUM SHADEaLOWER HALF MEDIUM SHADE",
  "1FB90aINVERSE MEDIUM SHADEaUPPER HALF BLOCK AND LOWER HALF INVERSE MEDIUM SHADE",
  "1FB92cINVERSE MEDIUM SHADE AND LOWER HALF BLOCK",
  "1FB94aLEFT HALF INVERSE MEDIUM SHADE AND RIGHT HALF BLOCKaCHECKER BOARD FILL",
  "1FB96aINVERSE CHECKER BOARD FILLaHEAVY HORIZONTAL FILLaUPPER LEFT TO LOWER RIGHT FILL",
  "1FB99bRIGHT TO LOWER LEFT FILLbAND LOWER TRIANGULAR HALF BLOCK",
  "1FB9BaLEFT AND RIGHT TRIANGULAR HALF BLOCKaUPPER LEFT TRIANGULAR MEDIUM SHADE",
  "1FB9DbRIGHT TRIANGULAR MEDIUM SHADEaLOWER RIGHT TRIANGULAR MEDIUM SHADE",
  "1FB9FbLEFT TRIANGULAR MEDIUM SHADEaBOX DRAWINGS LIGHT DIAGONAL UPPER CENTRE TO MIDDLE LEFT",
  "1FBA1iRIGHTeMIDDLE LEFT TO LOWER CENTREfRIGHT TO LOWER CENTRE",
  "1FBA4eUPPER CENTRE TO MIDDLE LEFT TO LOWER CENTREiRIGHT TO LOWER CENTRE",
  "1FBA6eMIDDLE LEFT TO LOWER CENTRE TO MIDDLE RIGHThUPPER CENTRE TO MIDDLE RIGHT",
  "1FBA8eUPPER CENTRE TO MIDDLE LEFT AND MIDDLE RIGHT TO LOWER CENTRE",
  "1FBA9iRIGHT AND MIDDLE LEFT TO LOWER CENTREjTO LOWER CENTRE TO MIDDLE LEFT",
  "1FBABiLEFT TO LOWER CENTRE TO MIDDLE RIGHT",
  "1FBACeMIDDLE LEFT TO UPPER CENTRE TO MIDDLE RIGHT TO LOWER CENTRE",
  "1FBADfRIGHT TO UPPER CENTRE TO MIDDLE LEFT TO LOWER CENTREeDIAMOND",
  "1FBAFdHORIZONTAL WITH VERTICAL STROKEaARROWHEAD-SHAPED POINTERaINVERSE CHECK MARK",
  "1FBB2aLEFT HALF RUNNING MANaRIGHT HALF RUNNING MAN",
  "1FBB4aINVERSE DOWNWARDS ARROW WITH TIP LEFTWARDS",
  "1FBB5aLEFTWARDS ARROW AND UPPER AND LOWER ONE EIGHTH BLOCK",
  "1FBB6aRIGHTWARDS ARROW AND UPPER AND LOWER ONE EIGHTH BLOCK",
  "1FBB7aDOWNWARDS ARROW AND RIGHT ONE EIGHTH BLOCKaUPWARDS ARROW AND RIGHT ONE EIGHTH BLOCK",
  "1FBB9aLEFT HALF FOLDERaRIGHT HALF FOLDERaVOIDED GREEK CROSSaRIGHT OPEN SQUARED DOT",
  "1FBBDaNEGATIVE DIAGONAL CROSScMIDDLE RIGHT TO LOWER CENTREcDIAMOND",
  "1FBC0aWHITE HEAVY SALTIRE WITH ROUNDED CORNERSaLEFT THIRD WHITE RIGHT POINTING INDEX",
  "1FBC2aMIDDLE THIRD WHITE RIGHT POINTING INDEXaRIGHT THIRD WHITE RIGHT POINTING INDEX",
  "1FBC4aNEGATIVE SQUARED QUESTION MARKaSTICK FIGUREcWITH ARMS RAISEDcLEANING LEFTdRIGHT",
  "1FBC9cWITH DRESSaWHITE UP-POINTING CHEVRON",
  "1FBF0aSEGMENTED DIGIT ZEROcONEcTWOcTHREEcFOURcFIVEcSIXcSEVENcEIGHTcNINE",
  "E0001aLANGUAGE TAG",
  "E0020aTAG SPACEbEXCLAMATION MARKbQUOTATION MARKbNUMBER SIGNbDOLLAR SIGNbPERCENT SIGN",
  "E0026bAMPERSANDbAPOSTROPHEbLEFT PARENTHESISbRIGHT PARENTHESISbASTERISKbPLUS SIGNbCOMMA",
  "E002DbHYPHEN-MINUSbFULL STOPbSOLIDUSbDIGIT ZEROcONEcTWOcTHREEcFOURcFIVEcSIXcSEVENcEIGHTcNINE",
  "E003AbCOLONbSEMICOLONbLESS-THAN SIGNbEQUALS SIGNbGREATER-THAN SIGNbQUESTION MARK",
  "E0040bCOMMERCIAL ATbLATIN CAPITAL LETTER AeBeCeDeEeFeGeHeIeJeKeLeMeNeOePeQeReSeTeUeVeWeXeYeZ",
  "E005BbLEFT SQUARE BRACKETbREVERSE SOLIDUSbRIGHT SQUARE BRACKETbCIRCUMFLEX ACCENTbLOW LINE",
  "E0060bGRAVE ACCENTbLATIN SMALL LETTER AeBeCeDeEeFeGeHeIeJeKeLeMeNeOePeQeReSeTeUeVeWeXeYeZ",
  "E007BbLEFT CURLY BRACKETbVERTICAL LINEbRIGHT CURLY BRACKETbTILDEaCANCEL TAG",
  "E0100aVARIATION SELECTOR-17bSELECTOR-18bSELECTOR-19bSELECTOR-20bSELECTOR-21bSELECTOR-22",
  "E0106bSELECTOR-23bSELECTOR-24bSELECTOR-25bSELECTOR-26bSELECTOR-27bSELECTOR-28bSELECTOR-29",
  "E010DbSELECTOR-30bSELECTOR-31bSELECTOR-32bSELECTOR-33bSELECTOR-34bSELECTOR-35bSELECTOR-36",
  "E0114bSELECTOR-37bSELECTOR-38bSELECTOR-39bSELECTOR-40bSELECTOR-41bSELECTOR-42bSELECTOR-43",
  "E011BbSELECTOR-44bSELECTOR-45bSELECTOR-46bSELECTOR-47bSELECTOR-48bSELECTOR-49bSELECTOR-50",
  "E0122bSELECTOR-51bSELECTOR-52bSELECTOR-53bSELECTOR-54bSELECTOR-55bSELECTOR-56bSELECTOR-57",
  "E0129bSELECTOR-58bSELECTOR-59bSELECTOR-60bSELECTOR-61bSELECTOR-62bSELECTOR-63bSELECTOR-64",
  "E0130bSELECTOR-65bSELECTOR-66bSELECTOR-67bSELECTOR-68bSELECTOR-69bSELECTOR-70bSELECTOR-71",
  "E0137bSELECTOR-72bSELECTOR-73bSELECTOR-74bSELECTOR-75bSELECTOR-76bSELECTOR-77bSELECTOR-78",
  "E013EbSELECTOR-79bSELECTOR-80bSELECTOR-81bSELECTOR-82bSELECTOR-83bSELECTOR-84bSELECTOR-85",
  "E0145bSELECTOR-86bSELECTOR-87bSELECTOR-88bSELECTOR-89bSELECTOR-90bSELECTOR-91bSELECTOR-92",
  "E014CbSELECTOR-93bSELECTOR-94bSELECTOR-95bSELECTOR-96bSELECTOR-97bSELECTOR-98bSELECTOR-99",
  "E0153bSELECTOR-100bSELECTOR-101bSELECTOR-102bSELECTOR-103bSELECTOR-104bSELECTOR-105",
  "E0159bSELECTOR-106bSELECTOR-107bSELECTOR-108bSELECTOR-109bSELECTOR-110bSELECTOR-111",
  "E015FbSELECTOR-112bSELECTOR-113bSELECTOR-114bSELECTOR-115bSELECTOR-116bSELECTOR-117",
  "E0165bSELECTOR-118bSELECTOR-119bSELECTOR-120bSELECTOR-121bSELECTOR-122bSELECTOR-123",
  "E016BbSELECTOR-124bSELECTOR-125bSELECTOR-126bSELECTOR-127bSELECTOR-128bSELECTOR-129",
  "E0171bSELECTOR-130bSELECTOR-131bSELECTOR-132bSELECTOR-133bSELECTOR-134bSELECTOR-135",
  "E0177bSELECTOR-136bSELECTOR-137bSELECTOR-138bSELECTOR-139bSELECTOR-140bSELECTOR-141",
  "E017DbSELECTOR-142bSELECTOR-143bSELECTOR-144bSELECTOR-145bSELECTOR-146bSELECTOR-147",
  "E0183bSELECTOR-148bSELECTOR-149bSELECTOR-150bSELECTOR-151bSELECTOR-152bSELECTOR-153",
  "E0189bSELECTOR-154bSELECTOR-155bSELECTOR-156bSELECTOR-157bSELECTOR-158bSELECTOR-159",
  "E018FbSELECTOR-160bSELECTOR-161bSELECTOR-162bSELECTOR-163bSELECTOR-164bSELECTOR-165",
  "E0195bSELECTOR-166bSELECTOR-167bSELECTOR-168bSELECTOR-169bSELECTOR-170bSELECTOR-171",
  "E019BbSELECTOR-172bSELECTOR-173bSELECTOR-174bSELECTOR-175bSELECTOR-176bSELECTOR-177",
  "E01A1bSELECTOR-178bSELECTOR-179bSELECTOR-180bSELECTOR-181bSELECTOR-182bSELECTOR-183",
  "E01A7bSELECTOR-184bSELECTOR-185bSELECTOR-186bSELECTOR-187bSELECTOR-188bSELECTOR-189",
  "E01ADbSELECTOR-190bSELECTOR-191bSELECTOR-192bSELECTOR-193bSELECTOR-194bSELECTOR-195",
  "E01B3bSELECTOR-196bSELECTOR-197bSELECTOR-198bSELECTOR-199bSELECTOR-200bSELECTOR-201",
  "E01B9bSELECTOR-202bSELECTOR-203bSELECTOR-204bSELECTOR-205bSELECTOR-206bSELECTOR-207",
  "E01BFbSELECTOR-208bSELECTOR-209bSELECTOR-210bSELECTOR-211bSELECTOR-212bSELECTOR-213",
  "E01C5bSELECTOR-214bSELECTOR-215bSELECTOR-216bSELECTOR-217bSELECTOR-218bSELECTOR-219",
  "E01CBbSELECTOR-220bSELECTOR-221bSELECTOR-222bSELECTOR-223bSELECTOR-224bSELECTOR-225",
  "E01D1bSELECTOR-226bSELECTOR-227bSELECTOR-228bSELECTOR-229bSELECTOR-230bSELECTOR-231",
  "E01D7bSELECTOR-232bSELECTOR-233bSELECTOR-234bSELECTOR-235bSELECTOR-236bSELECTOR-237",
  "E01DDbSELECTOR-238bSELECTOR-239bSELECTOR-240bSELECTOR-241bSELECTOR-242bSELECTOR-243",
  "E01E3bSELECTOR-244bSELECTOR-245bSELECTOR-246bSELECTOR-247bSELECTOR-248bSELECTOR-249",
  "E01E9bSELECTOR-250bSELECTOR-251bSELECTOR-252bSELECTOR-253bSELECTOR-254bSELECTOR-255",
  "E01EFbSELECTOR-256"]

end Stencil.CodePoint.Name
