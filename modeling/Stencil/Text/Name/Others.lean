/-!
# Other names

Names that code points have besides their own: those of control characters, corrected names and
abbreviations. A code point with several of them stands in several rows.

## Main definitions

* `CodePoint.Name.others` — the rows.
-/

namespace Stencil.CodePoint.Name

/-- The other names of code points. -/
def others : List String :=
  ["0aNULLaSTART OF HEADINGcTEXTaEND OF TEXTcTRANSMISSIONaENQUIRYaACKNOWLEDGEaALERTaBACKSPACE",
  "9aHORIZONTAL TABULATIONaEND OF LINEaVERTICAL TABULATIONaFORM FEEDaCARRIAGE RETURN",
  "EaLOCKING-SHIFT ONEbZEROaDATA LINK ESCAPEaDEVICE CONTROL ONEcTWOcTHREEcFOUR",
  "15aNEGATIVE ACKNOWLEDGEaSYNCHRONOUS IDLEaEND OF TRANSMISSION BLOCKaCANCELaEND OF MEDIUM",
  "1AaSUBSTITUTEaESCAPEaINFORMATION SEPARATOR FOURcTHREEcTWOcONEaSP",
  "7FaDELETEaPADDING CHARACTERaHIGH OCTET PRESETaBREAK PERMITTED HEREaNO BREAK HEREaINDEX",
  "85aNEXT LINEaSTART OF SELECTED AREAaEND OF SELECTED AREAaHORIZONTAL TABULATION SET",
  "89cWITH JUSTIFICATIONaVERTICAL TABULATION SETaPARTIAL LINE FORWARDcBACKWARD",
  "8DaREVERSE LINE FEEDaSINGLE SHIFT TWOcTHREEaDEVICE CONTROL STRINGaPRIVATE USE ONEcTWO",
  "93aSET TRANSMIT STATEaCANCEL CHARACTERaMESSAGE WAITINGaSTART OF PROTECTED AREA",
  "97aEND OF PROTECTED AREAaSTART OF STRINGaSINGLE GRAPHIC CHARACTER INTRODUCER",
  "9AbCHARACTER INTRODUCERaCONTROL SEQUENCE INTRODUCERaSTRING TERMINATOR",
  "9DaOPERATING SYSTEM COMMANDaPRIVACY MESSAGEaAPPLICATION PROGRAM COMMANDaNBSP",
  "ADaSHY",
  "1A2aLATIN CAPITAL LETTER GHAbSMALL LETTER GHA",
  "34FaCGJ",
  "61CaALM",
  "709aSYRIAC SUBLINEAR COLON SKEWED LEFT",
  "CDEaKANNADA LETTER LLLA",
  "E9DaLAO LETTER FO FON",
  "E9FdFAY",
  "EA3cRO",
  "EA5cLO",
  "FD0aTIBETAN MARK BKA- SHOG GI MGO RGYAN",
  "11ECaHANGUL JONGSEONG YESIEUNG-KIYEOKcYESIEUNG-SSANGKIYEOKcSSANGYESIEUNGcYESIEUNG-KHIEUKH",
  "180BaFVS1aFVS2aFVS3aMVSaFVS4",
  "200BaZWSPaZWNJaZWJaLRMaRLM",
  "202AaLREaRLEaPDFaLROaRLOaNNBSP",
  "205FaMMSPaWJ",
  "2066aLRIaRLIaFSIaPDI",
  "2118aWEIERSTRASS ELLIPTIC FUNCTION",
  "2448aMICR ON US SYMBOLbDASH SYMBOL",
  "2B7AaLEFTWARDS TRIANGLE-HEADED ARROW WITH DOUBLE VERTICAL STROKE",
  "2B7CaRIGHTWARDS TRIANGLE-HEADED ARROW WITH DOUBLE VERTICAL STROKE",
  "A015aYI SYLLABLE ITERATION MARK",
  "AA6EaMYANMAR LETTER KHAMTI LLA",
  "FE00aVS1aVS2aVS3aVS4aVS5aVS6aVS7aVS8aVS9aVS10aVS11aVS12aVS13aVS14aVS15aVS16",
  "FE18aPRESENTATION FORM FOR VERTICAL RIGHT WHITE LENTICULAR BRACKET",
  "FEFFaBYTE ORDER MARK",
  "122D4aCUNEIFORM SIGN NU11 TENUdOVER NU11 BUR OVER BUR",
  "16E56aMEDEFAIDRIN CAPITAL LETTER HdNG",
  "16E76bSMALL LETTER HdNG",
  "1B001aHENTAIGANA LETTER E-1",
  "1D0C5aBYZANTINE MUSICAL SYMBOL FTHORA SKLIRON CHROMA VASIS",
  "E0100aVS17aVS18aVS19aVS20aVS21aVS22aVS23aVS24aVS25aVS26aVS27aVS28aVS29aVS30aVS31aVS32aVS33",
  "E0111aVS34aVS35aVS36aVS37aVS38aVS39aVS40aVS41aVS42aVS43aVS44aVS45aVS46aVS47aVS48aVS49aVS50",
  "E0122aVS51aVS52aVS53aVS54aVS55aVS56aVS57aVS58aVS59aVS60aVS61aVS62aVS63aVS64aVS65aVS66aVS67",
  "E0133aVS68aVS69aVS70aVS71aVS72aVS73aVS74aVS75aVS76aVS77aVS78aVS79aVS80aVS81aVS82aVS83aVS84",
  "E0144aVS85aVS86aVS87aVS88aVS89aVS90aVS91aVS92aVS93aVS94aVS95aVS96aVS97aVS98aVS99aVS100aVS101",
  "E0155aVS102aVS103aVS104aVS105aVS106aVS107aVS108aVS109aVS110aVS111aVS112aVS113aVS114aVS115",
  "E0163aVS116aVS117aVS118aVS119aVS120aVS121aVS122aVS123aVS124aVS125aVS126aVS127aVS128aVS129",
  "E0171aVS130aVS131aVS132aVS133aVS134aVS135aVS136aVS137aVS138aVS139aVS140aVS141aVS142aVS143",
  "E017FaVS144aVS145aVS146aVS147aVS148aVS149aVS150aVS151aVS152aVS153aVS154aVS155aVS156aVS157",
  "E018DaVS158aVS159aVS160aVS161aVS162aVS163aVS164aVS165aVS166aVS167aVS168aVS169aVS170aVS171",
  "E019BaVS172aVS173aVS174aVS175aVS176aVS177aVS178aVS179aVS180aVS181aVS182aVS183aVS184aVS185",
  "E01A9aVS186aVS187aVS188aVS189aVS190aVS191aVS192aVS193aVS194aVS195aVS196aVS197aVS198aVS199",
  "E01B7aVS200aVS201aVS202aVS203aVS204aVS205aVS206aVS207aVS208aVS209aVS210aVS211aVS212aVS213",
  "E01C5aVS214aVS215aVS216aVS217aVS218aVS219aVS220aVS221aVS222aVS223aVS224aVS225aVS226aVS227",
  "E01D3aVS228aVS229aVS230aVS231aVS232aVS233aVS234aVS235aVS236aVS237aVS238aVS239aVS240aVS241",
  "E01E1aVS242aVS243aVS244aVS245aVS246aVS247aVS248aVS249aVS250aVS251aVS252aVS253aVS254aVS255",
  "E01EFaVS256",
  "0aNULaSOHaSTXaETXaEOTaENQaACKaBELaBSaCHARACTER TABULATIONaLINE FEEDbTABULATIONaFFaCR",
  "EaSHIFT OUTbINaDLEaDC1aDC2aDC3aDC4aNAKaSYNaETBaCANaEOMaSUBaESCaFILE SEPARATOR",
  "1DaGROUP SEPARATORaRECORD SEPARATORaUNIT SEPARATOR",
  "7FaDELaPADaHOPaBPHaNBHaINDaNELaSSAaESAaCHARACTER TABULATION SETcWITH JUSTIFICATION",
  "8AaLINE TABULATION SETaPARTIAL LINE DOWNcUPaREVERSE INDEXaSINGLE-SHIFT-2aSINGLE-SHIFT-3aDCS",
  "91aPRIVATE USE-1bUSE-2aSTSaCCHaMWaSTART OF GUARDED AREAaEND OF GUARDED AREAaSOSaSGCaSCIaCSI",
  "9CaSTaOSCaPMaAPC",
  "FEFFaZWNBSP",
  "9aTABaNEW LINEaVT",
  "EaSOaSI",
  "1CaFSaGSaRSaUS",
  "88aHTSaHTJaVTSaPLDaPLUaRIaSS2aSS3",
  "91aPU1aPU2",
  "96aSPAaEPA",
  "FEFFaBOM",
  "9aHTaEOL",
  "AaLF",
  "AaNL"]

end Stencil.CodePoint.Name
