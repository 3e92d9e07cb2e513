/-!
# Names of further scripts

The names of the code points from 1400 to 1FFF: the syllabaries of America, the scripts of South
East Asia and the letters with marks. The rows are read by the lookup of names.

## Main definitions

* `CodePoint.Name.syllabaries` — the rows.
-/

namespace Stencil.CodePoint.Name

/-- The names of the code points from 1400 to 1FFF. -/
def syllabaries : List String :=
  ["1400aCANADIAN SYLLABICS HYPHENcEcAAIcIcIIcOcOOcY-CREE OOcCARRIER EEdIcAcAAcWEcWEST-CREE WE",
  "140EcWIcWEST-CREE WIcWIIcWEST-CREE WIIcWOcWEST-CREE WOcWOOcWEST-CREE WOOcNASKAPI WOOcWA",
  "1418cWEST-CREE WAcWAAcWEST-CREE WAAcNASKAPI WAAcAIcY-CREE WcGLOTTAL STOPcFINAL ACUTEdGRAVE",
  "1421dBOTTOM HALF RINGdTOP HALF RINGdRIGHT HALF RINGdRINGdDOUBLE ACUTEeSHORT VERTICAL STROKES",
  "1427dMIDDLE DOTdSHORT HORIZONTAL STROKEdPLUSdDOWN TACKcENcINcONcANcPEcPAAIcPIcPIIcPOcPOO",
  "1435cY-CREE POOcCARRIER HEEdHIcPAcPAAcPWEcWEST-CREE PWEcPWIcWEST-CREE PWIcPWII",
  "143FcWEST-CREE PWIIcPWOcWEST-CREE PWOcPWOOcWEST-CREE PWOOcPWAcWEST-CREE PWAcPWAA",
  "1447cWEST-CREE PWAAcY-CREE PWAAcPcWEST-CREE PcCARRIER HcTEcTAAIcTIcTIIcTOcTOOcY-CREE TOO",
  "1453cCARRIER DEEdDIcTAcTAAcTWEcWEST-CREE TWEcTWIcWEST-CREE TWIcTWIIcWEST-CREE TWIIcTWO",
  "145EcWEST-CREE TWOcTWOOcWEST-CREE TWOOcTWAcWEST-CREE TWAcTWAAcWEST-CREE TWAAcNASKAPI TWAAcT",
  "1467cTTEcTTIcTTOcTTAcKEcKAAIcKIcKIIcKOcKOOcY-CREE KOOcKAcKAAcKWEcWEST-CREE KWEcKWI",
  "1477cWEST-CREE KWIcKWIIcWEST-CREE KWIIcKWOcWEST-CREE KWOcKWOOcWEST-CREE KWOOcKWA",
  "147FcWEST-CREE KWAcKWAAcWEST-CREE KWAAcNASKAPI KWAAcKcKWcSOUTH-SLAVEY KEHdKIHdKOHdKAHcCE",
  "148AcCAAIcCIcCIIcCOcCOOcY-CREE COOcCAcCAAcCWEcWEST-CREE CWEcCWIcWEST-CREE CWIcCWII",
  "1497cWEST-CREE CWIIcCWOcWEST-CREE CWOcCWOOcWEST-CREE CWOOcCWAcWEST-CREE CWAcCWAA",
  "149FcWEST-CREE CWAAcNASKAPI CWAAcCcSAYISI THcMEcMAAIcMIcMIIcMOcMOOcY-CREE MOOcMAcMAAcMWE",
  "14ADcWEST-CREE MWEcMWIcWEST-CREE MWIcMWIIcWEST-CREE MWIIcMWOcWEST-CREE MWOcMWOO",
  "14B5cWEST-CREE MWOOcMWAcWEST-CREE MWAcMWAAcWEST-CREE MWAAcNASKAPI MWAAcMcWEST-CREE McMH",
  "14BEcATHAPASCAN McSAYISI McNEcNAAIcNIcNIIcNOcNOOcY-CREE NOOcNAcNAAcNWEcWEST-CREE NWEcNWA",
  "14CCcWEST-CREE NWAcNWAAcWEST-CREE NWAAcNASKAPI NWAAcNcCARRIER NGcNHcLEcLAAIcLIcLIIcLOcLOO",
  "14D9cY-CREE LOOcLAcLAAcLWEcWEST-CREE LWEcLWIcWEST-CREE LWIcLWIIcWEST-CREE LWIIcLWO",
  "14E3cWEST-CREE LWOcLWOOcWEST-CREE LWOOcLWAcWEST-CREE LWAcLWAAcWEST-CREE LWAAcLcWEST-CREE L",
  "14ECcMEDIAL LcSEcSAAIcSIcSIIcSOcSOOcY-CREE SOOcSAcSAAcSWEcWEST-CREE SWEcSWIcWEST-CREE SWI",
  "14FAcSWIIcWEST-CREE SWIIcSWOcWEST-CREE SWOcSWOOcWEST-CREE SWOOcSWAcWEST-CREE SWAcSWAA",
  "1503cWEST-CREE SWAAcNASKAPI SWAAcScATHAPASCAN ScSWcBLACKFOOT ScMOOSE-CREE SKcNASKAPI SKWdS-W",
  "150CdSPWAdSTWAdSKWAdSCWAcSHEcSHIcSHIIcSHOcSHOOcSHAcSHAAcSHWEcWEST-CREE SHWEcSHWI",
  "151AcWEST-CREE SHWIcSHWIIcWEST-CREE SHWIIcSHWOcWEST-CREE SHWOcSHWOOcWEST-CREE SHWOOcSHWA",
  "1522cWEST-CREE SHWAcSHWAAcWEST-CREE SHWAAcSHcYEcYAAIcYIcYIIcYOcYOOcY-CREE YOOcYAcYAAcYWE",
  "1530cWEST-CREE YWEcYWIcWEST-CREE YWIcYWIIcWEST-CREE YWIIcYWOcWEST-CREE YWOcYWOO",
  "1538cWEST-CREE YWOOcYWAcWEST-CREE YWAcYWAAcWEST-CREE YWAAcNASKAPI YWAAcYcBIBLE-CREE Y",
  "1540cWEST-CREE YcSAYISI YIcREcR-CREE REcWEST-CREE LEcRAAIcRIcRIIcROcROOcWEST-CREE LOcRAcRAA",
  "154DcWEST-CREE LAcRWAAcWEST-CREE RWAAcRcWEST-CREE RcMEDIAL RcFEcFAAIcFIcFIIcFOcFOOcFAcFAA",
  "155BcFWAAcWEST-CREE FWAAcFcTHEcN-CREE THEcTHIcN-CREE THIcTHIIcN-CREE THIIcTHOcTHOOcTHAcTHAA",
  "1568cTHWAAcWEST-CREE THWAAcTHcTTHEcTTHIcTTHOcTTHAcTTHcTYEcTYIcTYOcTYAcNUNAVIK HEdHIdHIIdHO",
  "1578dHOOdHAdHAAdHcNUNAVUT HcHKcQAAIcQIcQIIcQOcQOOcQAcQAAcQcTLHEcTLHIcTLHOcTLHAcWEST-CREE RE",
  "158BdRIdROdRAcNGAAIcNGIcNGIIcNGOcNGOOcNGAcNGAAcNGcNNGcSAYISI SHEdSHIdSHOdSHAcWOODS-CREE THE",
  "159CdTHIdTHOdTHAdTHcLHIcLHIIcLHOcLHOOcLHAcLHAAcLHcTH-CREE THEdTHIdTHIIdTHOdTHOOdTHAdTHAAdTH",
  "15AFcAIVILIK BcBLACKFOOT EdIdOdAdWEdWIdWOdWAdNEdNIdNOdNAdKEdKIdKOdKAcSAYISI HEdHIdHOdHA",
  "15C4cCARRIER GHUdGHOdGHEdGHEEdGHIdGHAdRUdROdREdREEdRIdRAdWUdWOdWEdWEEdWIdWAdHWUdHWOdHWEdHWEE",
  "15DAdHWIdHWAdTHUdTHOdTHEdTHEEdTHIdTHAdTTUdTTOdTTEdTTEEdTTIdTTAdPUdPOdPEdPEEdPIdPAdPdGUdGOdGE",
  "15F2dGEEdGIdGAdKHUdKHOdKHEdKHEEdKHIdKHAdKKUdKKOdKKEdKKEEdKKIdKKAdKKdNUdNOdNEdNEEdNIdNAdMUdMO",
  "160AdMEdMEEdMIdMAdYUdYOdYEdYEEdYIdYAdJUcSAYISI JUcCARRIER JOdJEdJEEdJIcSAYISI JIcCARRIER JA",
  "161CdJJUdJJOdJJEdJJEEdJJIdJJAdLUdLOdLEdLEEdLIdLAdDLUdDLOdDLEdDLEEdDLIdDLAdLHUdLHOdLHEdLHEE",
  "1632dLHIdLHAdTLHUdTLHOdTLHEdTLHEEdTLHIdTLHAdTLUdTLOdTLEdTLEEdTLIdTLAdZUdZOdZEdZEEdZIdZAdZ",
  "1647dINITIAL ZdDZUdDZOdDZEdDZEEdDZIdDZAdSUdSOdSEdSEEdSIdSAdSHUdSHOdSHEdSHEEdSHIdSHAdSHdTSU",
  "165CdTSOdTSEdTSEEdTSIdTSAdCHUdCHOdCHEdCHEEdCHIdCHAdTTSUdTTSOdTTSEdTTSEEdTTSIdTTSAcCHI SIGN",
  "166EcFULL STOPcQAIcNGAIcNNGIcNNGIIcNNGOcNNGOOcNNGAcNNGAAcWOODS-CREE THWEEdTHWIdTHWIIdTHWO",
  "167BdTHWOOdTHWAdTHWAAdFINAL THcBLACKFOOT WaOGHAM SPACE MARKbLETTER BEITHcLUIScFEARNcSAIL",
  "1685cNIONcUATHcDAIRcTINNEcCOLLcCEIRTcMUINcGORTcNGEADALcSTRAIFcRUIScAILMcONNcURcEADHADH",
  "1694cIODHADHcEABHADHcORcUILLEANNcIFINcEAMHANCHOLLcPEITHbFEATHER MARKbREVERSED FEATHER MARK",
  "16A0aRUNIC LETTER FEHU FEOH FE FcVcURUZ UR UcYRcYcWcTHURISAZ THURS THORNcETHcANSUZ AcOS O",
  "16AAcAC AcAESCcLONG-BRANCH-OSS OcSHORT-TWIG-OSS OcOcOEcONcRAIDO RAD REID RcKAUNAcCENcKAUN K",
  "16B5cGcENGcGEBO GYFU GcGARcWUNJO WYNN WcHAGLAZ HcHAEGL HcLONG-BRANCH-HAGALL H",
  "16BDcSHORT-TWIG-HAGALL HcNAUDIZ NYD NAUD NcSHORT-TWIG-NAUD NcDOTTED-NcISAZ IS ISS IcE",
  "16C3cJERAN JcGERcLONG-BRANCH-AR AEcSHORT-TWIG-AR AcIWAZ EOHcPERTHO PEORTH PcALGIZ EOLHX",
  "16CAcSOWILO ScSIGEL LONG-BRANCH-SOL ScSHORT-TWIG-SOL ScCcZcTIWAZ TIR TYR TcSHORT-TWIG-TYR T",
  "16D1cDcBERKANAN BEORC BJARKAN BcSHORT-TWIG-BJARKAN BcDOTTED-PcOPEN-PcEHWAZ EH EcMANNAZ MAN M",
  "16D8cLONG-BRANCH-MADR McSHORT-TWIG-MADR McLAUKAZ LAGU LOGR LcDOTTED-LcINGWAZcING",
  "16DEcDAGAZ DAEG DcOTHALAN ETHEL OcEARcIORcCWEORTHcCALCcCEALCcSTANcLONG-BRANCH-YR",
  "16E7cSHORT-TWIG-YRcICELANDIC-YRcQcXbSINGLE PUNCTUATIONbMULTIPLE PUNCTUATION",
  "16EDbCROSS PUNCTUATIONbARLAUG SYMBOLbTVIMADUR SYMBOLbBELGTHOR SYMBOLbLETTER KcSHcOO",
  "16F4cFRANKS CASKET OSeISeEHeACeAESC",
  "1700aTAGALOG LETTER AcIcUcKAcGAcNGAcTAcDAcNAcPAcBAcMAcYAcRAcLAcWAcSAcHAbVOWEL SIGN IdU",
  "1714bSIGN VIRAMAcPAMUDPOD",
  "171FbLETTER ARCHAIC RAaHANUNOO LETTER AcIcUcKAcGAcNGAcTAcDAcNAcPAcBAcMAcYAcRAcLAcWAcSAcHA",
  "1732bVOWEL SIGN IdUbSIGN PAMUDPODaPHILIPPINE SINGLE PUNCTUATIONbDOUBLE PUNCTUATION",
  "1740aBUHID LETTER AcIcUcKAcGAcNGAcTAcDAcNAcPAcBAcMAcYAcRAcLAcWAcSAcHAbVOWEL SIGN IdU",
  "1760aTAGBANWA LETTER AcIcUcKAcGAcNGAcTAcDAcNAcPAcBAcMAcYA",
  "176EcLAcWAcSA",
  "1772bVOWEL SIGN IdU",
  "1780aKHMER LETTER KAcKHAcKOcKHOcNGOcCAcCHAcCOcCHOcNYOcDAcTTHAcDOcTTHOcNNOcTAcTHAcTOcTHOcNO",
  "1794cBAcPHAcPOcPHOcMOcYOcROcLOcVOcSHAcSSOcSAcHAcLAcQAbINDEPENDENT VOWEL QAQdQAAdQIdQIIdQU",
  "17A8dQUKdQUUdQUUVdRYdRYYdLYdLYYdQEdQAIdQOO TYPE ONEfTWOdQAUbVOWEL INHERENT AQdAAcSIGN AAdI",
  "17B8dIIdYdYYdUdUUdUAdOEdYAdIEdEdAEdAIdOOdAUbSIGN NIKAHITcREAHMUKcYUUKALEAPINTUcMUUSIKATOAN",
  "17CAcTRIISAPcBANTOCcROBATcTOANDAKHIATcKAKABATcAHSDAcSAMYOK SANNYAcVIRIAMcCOENGcBATHAMASAT",
  "17D4cKHANcBARIYOOSANcCAMNUC PII KUUHcLEK TOOcBEYYALcPHNAEK MUANcKOOMUUTbCURRENCY SYMBOL RIEL",
  "17DCbSIGN AVAKRAHASANYAcATTHACAN",
  "17E0bDIGIT ZEROcONEcTWOcTHREEcFOURcFIVEcSIXcSEVENcEIGHTcNINE",
  "17F0bSYMBOL LEK ATTAK SONeMUOYePIIeBEIeBUONePRAMePRAM-MUOYePRAM-PIIePRAM-BEIePRAM-BUON",
  "1800aMONGOLIAN BIRGAbELLIPSISbCOMMAbFULL STOPbCOLONbFOUR DOTSbTODO SOFT HYPHEN",
  "1807bSIBE SYLLABLE BOUNDARY MARKERbMANCHU COMMAcFULL STOPbNIRUGUbFREE VARIATION SELECTOR ONE",
  "180CeTWOeTHREEbVOWEL SEPARATORbFREE VARIATION SELECTOR FOURbDIGIT ZEROcONEcTWOcTHREEcFOUR",
  "1815cFIVEcSIXcSEVENcEIGHTcNINE",
  "1820bLETTER AcEcIcOcUcOEcUEcEEcNAcANGcBAcPAcQAcGAcMAcLAcSAcSHAcTAcDAcCHAcJAcYAcRAcWAcFAcKA",
  "183BcKHAcTSAcZAcHAAcZRAcLHAcZHIcCHIcTODO LONG VOWEL SIGNdEdIdOdUdOEdUEdANGdBAdPAdQAdGAdMAdTA",
  "1851dDAdCHAdJAdTSAdYAdWAdKAdGAAdHAAdJIAdNIAdDZAcSIBE EdIdIYdUEdUdANGdKAdGAdHAdPAdSHAdTAdDA",
  "186AdJAdFAdGAAdHAAdTSAdZAdRAAdCHAdZHAcMANCHU IdKAdRAdFAdZHAcCHA WITH TWO DOTS",
  "1880cALI GALI ANUSVARA ONEeVISARGA ONEeDAMARUeUBADAMAeINVERTED UBADAMAeBALUDAeTHREE BALUDAeA",
  "1888eIeKAeNGAeCAeTTAeTTHAeDDAeNNAeTAeDAePAePHAeSSAeZHAeZAeAHcTODO ALI GALI TAfZHA",
  "189AcMANCHU ALI GALI GHAfNGAfCAfJHAfTTAfDDHAfTAfDHAfSSAfCYAfZHAfZAcALI GALI HALF UfYA",
  "18A8cMANCHU ALI GALI BHAcALI GALI DAGALGAcMANCHU ALI GALI LHA",
  "18B0aCANADIAN SYLLABICS OYcAYcAAYcWAYcPOYcPAYcPWOYcTAYcKAYcKWAYcMAYcNOYcNAYcLAYcSOYcSAYcSHOY",
  "18C1cSHAYcSHWOYcYOYcYAYcRAYcNWIcOJIBWAY NWIcNWIIcOJIBWAY NWIIcNWOcOJIBWAY NWOcNWOO",
  "18CDcOJIBWAY NWOOcRWEEcRWIcRWIIcRWOcRWOOcRWAcOJIBWAY PdTdKdCdMdNdSdSHcEASTERN WcWESTERN W",
  "18DEcFINAL SMALL RINGdRAISED DOTcR-CREE RWEcWEST-CREE LOOdLAAcTHWEcTHWAcTTHWEcTTHOOcTTHAA",
  "18E8cTLHWEcTLHOOcSAYISI SHWEdSHOOdHOOcCARRIER GWUdDENE GEEdGAAdGWAcSAYISI JUUcCARRIER JWA",
  "18F3cBEAVER DENE LeRcCARRIER DENTAL S",
  "1900aLIMBU VOWEL-CARRIER LETTERbLETTER KAcKHAcGAcGHAcNGAcCAcCHAcJAcJHAcYANcTAcTHAcDAcDHAcNA",
  "1910cPAcPHAcBAcBHAcMAcYAcRAcLAcWAcSHAcSSAcSAcHAcGYANcTRA",
  "1920bVOWEL SIGN AdIdUdEEdAIdOOdAUdEdObSUBJOINED LETTER YAdRAdWA",
  "1930bSMALL LETTER KAdNGAdANUSVARAdTAdNAdPAdMAdRAdLAbSIGN MUKPHRENGcKEMPHRENGcSA-I",
  "1940cLOO",
  "1944bEXCLAMATION MARKbQUESTION MARKbDIGIT ZEROcONEcTWOcTHREEcFOURcFIVEcSIXcSEVENcEIGHTcNINE",
  "1950aTAI LE LETTER KAdXAdNGAdTSAdSAdYAdTAdTHAdLAdPAdPHAdMAdFAdVAdHAdQAdKHAdTSHAdNAdAdIdEEdEH",
  "1967dUdOOdOdUEdEdAUEdAI",
  "1970dTONE-2dTONE-3dTONE-4dTONE-5dTONE-6",
  "1980aNEW TAI LUE LETTER HIGH QAeLOW QAeHIGH KAfXAfNGAeLOW KAfXAfNGAeHIGH TSAfSAfYAeLOW TSA",
  "198CfSAfYAeHIGH TAfTHAfNAeLOW TAfTHAfNAeHIGH PAfPHAfMAeLOW PAfPHAfMAeHIGH FAfVAfLAeLOW FAfVA",
  "199FfLAeHIGH HAfDAfBAeLOW HAfDAfBAeHIGH KVAfXVAeLOW KVAfXVAeHIGH SUAeLOW SUA",
  "19B0dVOWEL SIGN VOWEL SHORTENERfAAfIIfUfUUfEfAEfOfOAfUEfAYfAAYfUYfOYfOAYfUEYfIY",
  "19C1dLETTER FINAL VfNGfNfMfKfDfBdTONE MARK-1eMARK-2",
  "19D0dDIGIT ZEROeONEeTWOeTHREEeFOUReFIVEeSIXeSEVENeEIGHTeNINEdTHAM DIGIT ONE",
  "19DEdSIGN LAEeLAEVaKHMER SYMBOL PATHAMASATcMUOY KOETcPII KOETcBEI KOETcBUON KOETcPRAM KOET",
  "19E6cPRAM-MUOY KOETcPRAM-PII KOETcPRAM-BEI KOETcPRAM-BUON KOETcDAP KOETcDAP-MUOY KOET",
  "19ECcDAP-PII KOETcDAP-BEI KOETcDAP-BUON KOETcDAP-PRAM KOETcTUTEYASATcMUOY ROCcPII ROC",
  "19F3cBEI ROCcBUON ROCcPRAM ROCcPRAM-MUOY ROCcPRAM-PII ROCcPRAM-BEI ROCcPRAM-BUON ROCcDAP ROC",
  "19FBcDAP-MUOY ROCcDAP-PII ROCcDAP-BEI ROCcDAP-BUON ROCcDAP-PRAM ROCaBUGINESE LETTER KAcGA",
  "1A02cNGAcNGKAcPAcBAcMAcMPAcTAcDAcNAcNRAcCAcJAcNYAcNYCAcYAcRAcLAcVAcSAcAcHAbVOWEL SIGN IdUdE",
  "1A1AdOdAE",
  "1A1EbPALLAWAbEND OF SECTIONaTAI THAM LETTER HIGH KAeKHAeKXAdLOW KAeKXAeKHAdNGAdHIGH CAeCHA",
  "1A29dLOW CAeSAeCHAdNYAdRATAdHIGH RATHAdDAdLOW RATHAdRANAdHIGH TAeTHAdLOW TAeTHAdNAdBA",
  "1A38dHIGH PAePHAeFAdLOW PAeFAePHAdMAdLOW YAdHIGH YAdRAdRUEdLAdLUEdWAdHIGH SHAeSSAeSAeHAdLLA",
  "1A4BdAdLOW HAdIdIIdUdUUdEEdOOdLAEdGREAT SAcCONSONANT SIGN MEDIAL RAfLAeLA TANG LAI",
  "1A58cSIGN MAI KANG LAIcCONSONANT SIGN FINAL NGAeLOW PAeHIGH RATHA OR LOW PAeMAeBAeSA",
  "1A60cSIGN SAKOTcVOWEL SIGN AeMAI SATeAAeTALL AAeIeIIeUEeUUEeUeUUeOeOA BELOWeOYeEeAEeOOeAI",
  "1A72eTHAM AIeOA ABOVEcSIGN MAI KANGdTONE-1dTONE-2dKHUEN TONE-3eTONE-4eTONE-5dRA HAAMdMAI SAM",
  "1A7CdKHUEN-LUE KARAN",
  "1A7FcCOMBINING CRYPTOGRAMMIC DOTcHORA DIGIT ZEROeONEeTWOeTHREEeFOUReFIVEeSIXeSEVENeEIGHT",
  "1A89eNINE",
  "1A90cTHAM DIGIT ZEROeONEeTWOeTHREEeFOUReFIVEeSIXeSEVENeEIGHTeNINE",
  "1AA0cSIGN WIANGdWIANGWAAKdSAWANdKEOWdHOYdDOKMAIdREVERSED ROTATED RANAdMAI YAMOKdKAANdKAANKUU",
  "1AAAdSATKAANdSATKAANKUUdHANGdCAANG",
  "1AB0aCOMBINING DOUBLED CIRCUMFLEX ACCENTbDIAERESIS-RINGbINFINITYbDOWNWARDS ARROWbTRIPLE DOT",
  "1AB5bX-X BELOWbWIGGLY LINE BELOWbOPEN MARK BELOWbDOUBLE OPEN MARK BELOW",
  "1AB9bLIGHT CENTRALIZATION STROKE BELOWbSTRONG CENTRALIZATION STROKE BELOWbPARENTHESES ABOVE",
  "1ABCbDOUBLE PARENTHESES ABOVEbPARENTHESES BELOWcOVERLAYbLATIN SMALL LETTER W BELOW",
  "1AC0eTURNED W BELOWbLEFT PARENTHESIS ABOVE LEFTbRIGHT PARENTHESIS ABOVE RIGHT",
  "1AC3bLEFT PARENTHESIS BELOW LEFTbRIGHT PARENTHESIS BELOW RIGHTbSQUARE BRACKETS ABOVE",
  "1AC6bNUMBER SIGN ABOVEbINVERTED DOUBLE ARCH ABOVEbPLUS SIGN ABOVEbDOUBLE PLUS SIGN ABOVE",
  "1ACAeBELOWbTRIPLE ACUTE ACCENTbLATIN SMALL LETTER INSULAR GfRfT",
  "1B00aBALINESE SIGN ULU RICEMdCANDRAcCECEKcSURANGcBISAHbLETTER AKARAdTEDUNGcIKARAdTEDUNG",
  "1B09cUKARAdTEDUNGcRA REPAeTEDUNGcLA LENGAeTEDUNGcEKARAcAIKARAcOKARAdTEDUNGcKAdMAHAPRANAcGA",
  "1B16dGORAcNGAcCAdLACAcJAdJERAcNYAcTA LATIKdMURDA MAHAPRANAcDA MURDA ALPAPRANAeMAHAPRANA",
  "1B21cNA RAMBATcTAdTAWAcDAdMADUcNAcPAdKAPALcBAdKEMBANGcMAcYAcRAcLAcWAcSA SAGAdSAPAdcHA",
  "1B34bSIGN REREKANbVOWEL SIGN TEDUNGdULUeSARIdSUKUeILUTdRA REPAfTEDUNGdLA LENGAfTEDUNGdTALING",
  "1B3FeREPAeTEDUNGeREPA TEDUNGdPEPETeTEDUNGbADEG ADEGbLETTER KAF SASAKcKHOT SASAKcTZIR SASAK",
  "1B48cEF SASAKcVE SASAKcZAL SASAKcASYURA SASAKcARCHAIC JNYA",
  "1B50bDIGIT ZEROcONEcTWOcTHREEcFOURcFIVEcSIXcSEVENcEIGHTcNINEbPANTIbPAMADAbWINDU",
  "1B5DbCARIK PAMUNGKAHcSIKIcPARERENbPAMENENGbMUSICAL SYMBOL DONGdDENGdDUNGdDANGeSURANGdDING",
  "1B67dDAENGdDEUNGdDAINGdDANG GEDEdCOMBINING TEGEHeENDEPeKEMPULeKEMPLIeJEGOGAN",
  "1B70eKEMPUL WITH JEGOGANeKEMPLI WITH JEGOGANeBENDEeGONGdRIGHT-HAND OPEN DUGfDAGeCLOSED TUK",
  "1B77fTAKdLEFT-HAND OPEN PANGfPUNGeCLOSED PLAKfPLUKeOPEN PINGbPANTI LANTANGbPAMADA LANTANG",
  "1B80aSUNDANESE SIGN PANYECEKcPANGLAYARcPANGWISADbLETTER AcIcUcAEcOcEcEUcKAcQAcGAcNGAcCAcJA",
  "1B90cZAcNYAcTAcDAcNAcPAcFAcVAcBAcMAcYAcRAcLAcWAcSAcXAcHAbCONSONANT SIGN PAMINGKALdPANYAKRA",
  "1BA3dPANYIKUbVOWEL SIGN PANGHULUdPANYUKUdPANAELAENGdPANOLONGdPAMEPETdPANEULEUNGbSIGN PAMAAEH",
  "1BABcVIRAMAbCONSONANT SIGN PASANGAN MAeWAbLETTER KHAcSYAbDIGIT ZEROcONEcTWOcTHREEcFOURcFIVE",
  "1BB6cSIXcSEVENcEIGHTcNINEbAVAGRAHAbLETTER REUcLEUcBHAcFINAL KdMaBATAK LETTER AcSIMALUNGUN A",
  "1BC2cHAcSIMALUNGUN HAcMANDAILING HAcBAcKARO BAcPAcSIMALUNGUN PAcNAcMANDAILING NAcWA",
  "1BCCcSIMALUNGUN WAcPAKPAK WAcGAcSIMALUNGUN GAcJAcDAcRAcSIMALUNGUN RAcMAcSIMALUNGUN MA",
  "1BD6cSOUTHERN TAcNORTHERN TAcSAcSIMALUNGUN SAcMANDAILING SAcYAcSIMALUNGUN YAcNGAcLA",
  "1BDFcSIMALUNGUN LAcNYAcCAcNDAcMBAcIcUbSIGN TOMPIbVOWEL SIGN EdPAKPAK EdEEdIdKARO IdOdKARO O",
  "1BEEdUeFOR SIMALUNGUN SAbCONSONANT SIGN NGdHbPANGOLATbPANONGONAN",
  "1BFCbSYMBOL BINDU NA METEKdPINARBORASdJUDULdPANGOLATaLEPCHA LETTER KAcKLAcKHAcGAcGLAcNGAcCA",
  "1C07cCHAcJAcNYAcTAcTHAcDAcNAcPAcPLAcPHAcFAcFLAcBAcBLAcMAcMLAcTSAcTSHAcDZAcYAcRAcLAcHAcHLAcVA",
  "1C20cSAcSHAcWAcAbSUBJOINED LETTER YAdRAbVOWEL SIGN AAdIdOdOOdUdUUdEbCONSONANT SIGN KdMdLdNdP",
  "1C32dRdTdNYIN-DOdKANGbSIGN RANcNUKTA",
  "1C3BbPUNCTUATION TA-ROLcNYET THYOOM TA-ROLcCER-WAcTSHOOK CER-WAdbDIGIT ZEROcONEcTWOcTHREE",
  "1C44cFOURcFIVEcSIXcSEVENcEIGHTcNINE",
  "1C4DbLETTER TTAcTTHAcDDAaOL CHIKI DIGIT ZEROdONEdTWOdTHREEdFOURdFIVEdSIXdSEVENdEIGHTdNINE",
  "1C5AcLETTER LAdATdAGdANGdALdLAAdAAKdAAJdAAMdAAWdLIdISdIHdINYdIRdLUdUCdUDdUNNdUYdLEdEPdEDDdEN",
  "1C72dERRdLOdOTTdOBdOVdOHcMU TTUDDAGcGAAHLAA TTUDDAAGcMU-GAAHLAA TTUDDAAGcRELAAcPHAARKAAcAHAD",
  "1C7EcPUNCTUATION MUCAADdDOUBLE MUCAADaCYRILLIC SMALL LETTER ROUNDED VEdLONG-LEGGED DE",
  "1C82dNARROW OdWIDE ESdTALL TEdTHREE-LEGGED TEdTALL HARD SIGNeYATdUNBLENDED UK",
  "1C90aGEORGIAN MTAVRULI CAPITAL LETTER ANeBANeGANeDONeENeVINeZENeTANeINeKANeLASeMANeNAReON",
  "1C9EePAReZHAReRAEeSANeTAReUNePHAReKHAReGHANeQAReSHINeCHINeCANeJILeCILeCHAReXANeJHANeHAEeHE",
  "1CB2eHIEeWEeHAReHOEeFIeYNeELIFIeTURNED GANeAIN",
  "1CBDeAENeHARD SIGNeLABIAL SIGNaSUNDANESE PUNCTUATION BINDU SURYAdPANGLONGdPURNAMAdCAKRA",
  "1CC4dLEU SATANGAdKA SATANGAdDA SATANGAdBA SATANGA",
  "1CD0aVEDIC TONE KARSHANAcSHARAcPRENKHAbSIGN NIHSHVASAcYAJURVEDIC MIDLINE SVARITA",
  "1CD5bTONE YAJURVEDIC AGGRAVATED INDEPENDENT SVARITAdINDEPENDENT SVARITA",
  "1CD7dKATHAKA INDEPENDENT SVARITAcCANDRA BELOW",
  "1CD9cYAJURVEDIC KATHAKA INDEPENDENT SVARITA SCHROEDERcDOUBLE SVARITAcTRIPLE SVARITA",
  "1CDCcKATHAKA ANUDATTAcDOT BELOWcTWO DOTS BELOWcTHREE DOTS BELOW",
  "1CE0cRIGVEDIC KASHMIRI INDEPENDENT SVARITAcATHARVAVEDIC INDEPENDENT SVARITA",
  "1CE2bSIGN VISARGA SVARITAdUDATTAcREVERSED VISARGA UDATTAcVISARGA ANUDATTA",
  "1CE6cREVERSED VISARGA ANUDATTAcVISARGA UDATTA WITH TAILdANUDATTA WITH TAIL",
  "1CE9cANUSVARA ANTARGOMUKHAdBAHIRGOMUKHAdVAMAGOMUKHAeWITH TAILcTIRYAKcHEXIFORM LONG ANUSVARA",
  "1CEFcLONG ANUSVARAcRTHANG LONG ANUSVARAcANUSVARA UBHAYATO MUKHAcARDHAVISARGA",
  "1CF3cROTATED ARDHAVISARGAbTONE CANDRA ABOVEbSIGN JIHVAMULIYAcUPADHMANIYAcATIKRAMA",
  "1CF8bTONE RING ABOVEcDOUBLE RING ABOVEbSIGN DOUBLE ANUSVARA ANTARGOMUKHA",
  "1D00aLATIN LETTER SMALL CAPITAL AeAEbSMALL LETTER TURNED AEbLETTER SMALL CAPITAL BARRED BeC",
  "1D05eDeETHeEbSMALL LETTER TURNED OPEN EeIbLETTER SMALL CAPITAL JeKeL WITH STROKEeM",
  "1D0EeREVERSED NeOeOPEN ObSMALL LETTER SIDEWAYS OeOPEN OeO WITH STROKEdTURNED OE",
  "1D15bLETTER SMALL CAPITAL OUbSMALL LETTER TOP HALF OdBOTTOM HALF ObLETTER SMALL CAPITAL P",
  "1D19eREVERSED ReTURNED ReTeUbSMALL LETTER SIDEWAYS UeDIAERESIZED UeTURNED M",
  "1D20bLETTER SMALL CAPITAL VeWeZeEZHcVOICED LARYNGEAL SPIRANTcAIN",
  "1D26aGREEK LETTER SMALL CAPITAL GAMMAeLAMDAePIeRHOePSIaCYRILLIC LETTER SMALL CAPITAL EL",
  "1D2CaMODIFIER LETTER CAPITAL AdAEdBdBARRED BdDdEdREVERSED EdGdHdIdJdKdLdMdNdREVERSED NdOdOU",
  "1D3EdPdRdTdUdWcSMALL AdTURNED AdALPHAdTURNED AEdBdDdEdSCHWAdOPEN EdTURNED OPEN EdGdTURNED I",
  "1D4FdKdMdENGdOdOPEN OdTOP HALF OdBOTTOM HALF OdPdTdUdSIDEWAYS UdTURNED MdVdAINdBETA",
  "1D5EdGREEK GAMMAdDELTAdGREEK PHIdCHIaLATIN SUBSCRIPT SMALL LETTER IeReUeV",
  "1D66aGREEK SUBSCRIPT SMALL LETTER BETAeGAMMAeRHOePHIeCHIaLATIN SMALL LETTER UE",
  "1D6CdB WITH MIDDLE TILDEdD WITH MIDDLE TILDEdF WITH MIDDLE TILDEdM WITH MIDDLE TILDE",
  "1D70dN WITH MIDDLE TILDEdP WITH MIDDLE TILDEdR WITH MIDDLE TILDEfFISHHOOK AND MIDDLE TILDE",
  "1D74dS WITH MIDDLE TILDEdT WITH MIDDLE TILDEdZ WITH MIDDLE TILDEdTURNED G",
  "1D78aMODIFIER LETTER CYRILLIC ENaLATIN SMALL LETTER INSULAR GdTH WITH STRIKETHROUGH",
  "1D7BcCAPITAL LETTER I WITH STROKEcLETTER IOTA WITH STROKEdP WITH STROKE",
  "1D7EcCAPITAL LETTER U WITH STROKEcLETTER UPSILON WITH STROKEdB WITH PALATAL HOOK",
  "1D81dD WITH PALATAL HOOKdF WITH PALATAL HOOKdG WITH PALATAL HOOKdK WITH PALATAL HOOK",
  "1D85dL WITH PALATAL HOOKdM WITH PALATAL HOOKdN WITH PALATAL HOOKdP WITH PALATAL HOOK",
  "1D89dR WITH PALATAL HOOKdS WITH PALATAL HOOKdESH WITH PALATAL HOOKdV WITH PALATAL HOOK",
  "1D8DdX WITH PALATAL HOOKdZ WITH PALATAL HOOKdA WITH RETROFLEX HOOKdALPHA WITH RETROFLEX HOOK",
  "1D91dD WITH HOOK AND TAILdE WITH RETROFLEX HOOKdOPEN E WITH RETROFLEX HOOK",
  "1D94dREVERSED OPEN E WITH RETROFLEX HOOKdSCHWA WITH RETROFLEX HOOKdI WITH RETROFLEX HOOK",
  "1D97dOPEN O WITH RETROFLEX HOOKdESH WITH RETROFLEX HOOKdU WITH RETROFLEX HOOK",
  "1D9AdEZH WITH RETROFLEX HOOKaMODIFIER LETTER SMALL TURNED ALPHAdCeWITH CURLdETH",
  "1D9FdREVERSED OPEN EdFdDOTLESS J WITH STROKEdSCRIPT GdTURNED HdI WITH STROKEdIOTAdCAPITAL I",
  "1DA7fWITH STROKEdJ WITH CROSSED-TAILdL WITH RETROFLEX HOOKfPALATAL HOOKdCAPITAL L",
  "1DACdM WITH HOOKdTURNED M WITH LONG LEGdN WITH LEFT HOOKfRETROFLEX HOOKdCAPITAL NdBARRED O",
  "1DB2dPHIdS WITH HOOKdESHdT WITH PALATAL HOOKdU BARdUPSILONdCAPITAL UdV WITH HOOKdTURNED VdZ",
  "1DBCeWITH RETROFLEX HOOKfCURLdEZHdTHETAaCOMBINING DOTTED GRAVE ACCENTcACUTE ACCENT",
  "1DC2bSNAKE BELOWbSUSPENSION MARKbMACRON-ACUTEbGRAVE-MACRONbMACRON-GRAVEbACUTE-MACRON",
  "1DC8bGRAVE-ACUTE-GRAVEbACUTE-GRAVE-ACUTEbLATIN SMALL LETTER R BELOWbBREVE-MACRON",
  "1DCCbMACRON-BREVEbDOUBLE CIRCUMFLEX ABOVEbOGONEK ABOVEbZIGZAG BELOWbIS BELOWbUR ABOVE",
  "1DD2bUS ABOVEbLATIN SMALL LETTER FLATTENED OPEN A ABOVEeAEeAOeAVeC CEDILLAeINSULAR DeETHeG",
  "1DDBcLETTER SMALL CAPITAL GcSMALL LETTER KeLcLETTER SMALL CAPITAL LfMcSMALL LETTER N",
  "1DE1cLETTER SMALL CAPITAL NfRcSMALL LETTER R ROTUNDAeSeLONG SeZeALPHAeBeBETAeSCHWAeF",
  "1DECeL WITH DOUBLE MIDDLE TILDEeO WITH LIGHT CENTRALIZATION STROKEePeESH",
  "1DF0eU WITH LIGHT CENTRALIZATION STROKEeWeA WITH DIAERESISeO WITH DIAERESISeU WITH DIAERESIS",
  "1DF5bUP TACK ABOVEbKAVYKA ABOVE RIGHTdLEFTbDOT ABOVE LEFTbWIDE INVERTED BRIDGE BELOW",
  "1DFAbDOT BELOW LEFTbDELETION MARKbDOUBLE INVERTED BREVE BELOWbALMOST EQUAL TO BELOW",
  "1DFEbLEFT ARROWHEAD ABOVEbRIGHT ARROWHEAD AND DOWN ARROWHEAD BELOW",
  "1E00aLATIN CAPITAL LETTER A WITH RING BELOWbSMALL LETTER A WITH RING BELOW",
  "1E02bCAPITAL LETTER B WITH DOT ABOVEbSMALL LETTER B WITH DOT ABOVE",
  "1E04bCAPITAL LETTER B WITH DOT BELOWbSMALL LETTER B WITH DOT BELOW",
  "1E06bCAPITAL LETTER B WITH LINE BELOWbSMALL LETTER B WITH LINE BELOW",
  "1E08bCAPITAL LETTER C WITH CEDILLA AND ACUTEbSMALL LETTER C WITH CEDILLA AND ACUTE",
  "1E0AbCAPITAL LETTER D WITH DOT ABOVEbSMALL LETTER D WITH DOT ABOVE",
  "1E0CbCAPITAL LETTER D WITH DOT BELOWbSMALL LETTER D WITH DOT BELOW",
  "1E0EbCAPITAL LETTER D WITH LINE BELOWbSMALL LETTER D WITH LINE BELOW",
  "1E10bCAPITAL LETTER D WITH CEDILLAbSMALL LETTER D WITH CEDILLA",
  "1E12bCAPITAL LETTER D WITH CIRCUMFLEX BELOWbSMALL LETTER D WITH CIRCUMFLEX BELOW",
  "1E14bCAPITAL LETTER E WITH MACRON AND GRAVEbSMALL LETTER E WITH MACRON AND GRAVE",
  "1E16bCAPITAL LETTER E WITH MACRON AND ACUTEbSMALL LETTER E WITH MACRON AND ACUTE",
  "1E18bCAPITAL LETTER E WITH CIRCUMFLEX BELOWbSMALL LETTER E WITH CIRCUMFLEX BELOW",
  "1E1AbCAPITAL LETTER E WITH TILDE BELOWbSMALL LETTER E WITH TILDE BELOW",
  "1E1CbCAPITAL LETTER E WITH CEDILLA AND BREVEbSMALL LETTER E WITH CEDILLA AND BREVE",
  "1E1EbCAPITAL LETTER F WITH DOT ABOVEbSMALL LETTER F WITH DOT ABOVE",
  "1E20bCAPITAL LETTER G WITH MACRONbSMALL LETTER G WITH MACRONbCAPITAL LETTER H WITH DOT ABOVE",
  "1E23bSMALL LETTER H WITH DOT ABOVEbCAPITAL LETTER H WITH DOT BELOW",
  "1E25bSMALL LETTER H WITH DOT BELOWbCAPITAL LETTER H WITH DIAERESIS",
  "1E27bSMALL LETTER H WITH DIAERESISbCAPITAL LETTER H WITH CEDILLAbSMALL LETTER H WITH CEDILLA",
  "1E2AbCAPITAL LETTER H WITH BREVE BELOWbSMALL LETTER H WITH BREVE BELOW",
  "1E2CbCAPITAL LETTER I WITH TILDE BELOWbSMALL LETTER I WITH TILDE BELOW",
  "1E2EbCAPITAL LETTER I WITH DIAERESIS AND ACUTEbSMALL LETTER I WITH DIAERESIS AND ACUTE",
  "1E30bCAPITAL LETTER K WITH ACUTEbSMALL LETTER K WITH ACUTEbCAPITAL LETTER K WITH DOT BELOW",
  "1E33bSMALL LETTER K WITH DOT BELOWbCAPITAL LETTER K WITH LINE BELOW",
  "1E35bSMALL LETTER K WITH LINE BELOWbCAPITAL LETTER L WITH DOT BELOW",
  "1E37bSMALL LETTER L WITH DOT BELOWbCAPITAL LETTER L WITH DOT BELOW AND MACRON",
  "1E39bSMALL LETTER L WITH DOT BELOW AND MACRONbCAPITAL LETTER L WITH LINE BELOW",
  "1E3BbSMALL LETTER L WITH LINE BELOWbCAPITAL LETTER L WITH CIRCUMFLEX BELOW",
  "1E3DbSMALL LETTER L WITH CIRCUMFLEX BELOWbCAPITAL LETTER M WITH ACUTE",
  "1E3FbSMALL LETTER M WITH ACUTEbCAPITAL LETTER M WITH DOT ABOVEbSMALL LETTER M WITH DOT ABOVE",
  "1E42bCAPITAL LETTER M WITH DOT BELOWbSMALL LETTER M WITH DOT BELOW",
  "1E44bCAPITAL LETTER N WITH DOT ABOVEbSMALL LETTER N WITH DOT ABOVE",
  "1E46bCAPITAL LETTER N WITH DOT BELOWbSMALL LETTER N WITH DOT BELOW",
  "1E48bCAPITAL LETTER N WITH LINE BELOWbSMALL LETTER N WITH LINE BELOW",
  "1E4AbCAPITAL LETTER N WITH CIRCUMFLEX BELOWbSMALL LETTER N WITH CIRCUMFLEX BELOW",
  "1E4CbCAPITAL LETTER O WITH TILDE AND ACUTEbSMALL LETTER O WITH TILDE AND ACUTE",
  "1E4EbCAPITAL LETTER O WITH TILDE AND DIAERESISbSMALL LETTER O WITH TILDE AND DIAERESIS",
  "1E50bCAPITAL LETTER O WITH MACRON AND GRAVEbSMALL LETTER O WITH MACRON AND GRAVE",
  "1E52bCAPITAL LETTER O WITH MACRON AND ACUTEbSMALL LETTER O WITH MACRON AND ACUTE",
  "1E54bCAPITAL LETTER P WITH ACUTEbSMALL LETTER P WITH ACUTEbCAPITAL LETTER P WITH DOT ABOVE",
  "1E57bSMALL LETTER P WITH DOT ABOVEbCAPITAL LETTER R WITH DOT ABOVE",
  "1E59bSMALL LETTER R WITH DOT ABOVEbCAPITAL LETTER R WITH DOT BELOW",
  "1E5BbSMALL LETTER R WITH DOT BELOWbCAPITAL LETTER R WITH DOT BELOW AND MACRON",
  "1E5DbSMALL LETTER R WITH DOT BELOW AND MACRONbCAPITAL LETTER R WITH LINE BELOW",
  "1E5FbSMALL LETTER R WITH LINE BELOWbCAPITAL LETTER S WITH DOT ABOVE",
  "1E61bSMALL LETTER S WITH DOT ABOVEbCAPITAL LETTER S WITH DOT BELOW",
  "1E63bSMALL LETTER S WITH DOT BELOWbCAPITAL LETTER S WITH ACUTE AND DOT ABOVE",
  "1E65bSMALL LETTER S WITH ACUTE AND DOT ABOVEbCAPITAL LETTER S WITH CARON AND DOT ABOVE",
  "1E67bSMALL LETTER S WITH CARON AND DOT ABOVEbCAPITAL LETTER S WITH DOT BELOW AND DOT ABOVE",
  "1E69bSMALL LETTER S WITH DOT BELOW AND DOT ABOVEbCAPITAL LETTER T WITH DOT ABOVE",
  "1E6BbSMALL LETTER T WITH DOT ABOVEbCAPITAL LETTER T WITH DOT BELOW",
  "1E6DbSMALL LETTER T WITH DOT BELOWbCAPITAL LETTER T WITH LINE BELOW",
  "1E6FbSMALL LETTER T WITH LINE BELOWbCAPITAL LETTER T WITH CIRCUMFLEX BELOW",
  "1E71bSMALL LETTER T WITH CIRCUMFLEX BELOWbCAPITAL LETTER U WITH DIAERESIS BELOW",
  "1E73bSMALL LETTER U WITH DIAERESIS BELOWbCAPITAL LETTER U WITH TILDE BELOW",
  "1E75bSMALL LETTER U WITH TILDE BELOWbCAPITAL LETTER U WITH CIRCUMFLEX BELOW",
  "1E77bSMALL LETTER U WITH CIRCUMFLEX BELOWbCAPITAL LETTER U WITH TILDE AND ACUTE",
  "1E79bSMALL LETTER U WITH TILDE AND ACUTEbCAPITAL LETTER U WITH MACRON AND DIAERESIS",
  "1E7BbSMALL LETTER U WITH MACRON AND DIAERESISbCAPITAL LETTER V WITH TILDE",
  "1E7DbSMALL LETTER V WITH TILDEbCAPITAL LETTER V WITH DOT BELOWbSMALL LETTER V WITH DOT BELOW",
  "1E80bCAPITAL LETTER W WITH GRAVEbSMALL LETTER W WITH GRAVEbCAPITAL LETTER W WITH ACUTE",
  "1E83bSMALL LETTER W WITH ACUTEbCAPITAL LETTER W WITH DIAERESISbSMALL LETTER W WITH DIAERESIS",
  "1E86bCAPITAL LETTER W WITH DOT ABOVEbSMALL LETTER W WITH DOT ABOVE",
  "1E88bCAPITAL LETTER W WITH DOT BELOWbSMALL LETTER W WITH DOT BELOW",
  "1E8AbCAPITAL LETTER X WITH DOT ABOVEbSMALL LETTER X WITH DOT ABOVE",
  "1E8CbCAPITAL LETTER X WITH DIAERESISbSMALL LETTER X WITH DIAERESIS",
  "1E8EbCAPITAL LETTER Y WITH DOT ABOVEbSMALL LETTER Y WITH DOT ABOVE",
  "1E90bCAPITAL LETTER Z WITH CIRCUMFLEXbSMALL LETTER Z WITH CIRCUMFLEX",
  "1E92bCAPITAL LETTER Z WITH DOT BELOWbSMALL LETTER Z WITH DOT BELOW",
  "1E94bCAPITAL LETTER Z WITH LINE BELOWbSMALL LETTER Z WITH LINE BELOWdH WITH LINE BELOW",
  "1E97dT WITH DIAERESISdW WITH RING ABOVEdY WITH RING ABOVEdA WITH RIGHT HALF RING",
  "1E9BdLONG S WITH DOT ABOVEgDIAGONAL STROKEgHIGH STROKEbCAPITAL LETTER SHARP S",
  "1E9FbSMALL LETTER DELTAbCAPITAL LETTER A WITH DOT BELOWbSMALL LETTER A WITH DOT BELOW",
  "1EA2bCAPITAL LETTER A WITH HOOK ABOVEbSMALL LETTER A WITH HOOK ABOVE",
  "1EA4bCAPITAL LETTER A WITH CIRCUMFLEX AND ACUTEbSMALL LETTER A WITH CIRCUMFLEX AND ACUTE",
  "1EA6bCAPITAL LETTER A WITH CIRCUMFLEX AND GRAVEbSMALL LETTER A WITH CIRCUMFLEX AND GRAVE",
  "1EA8bCAPITAL LETTER A WITH CIRCUMFLEX AND HOOK ABOVE",
  "1EA9bSMALL LETTER A WITH CIRCUMFLEX AND HOOK ABOVE",
  "1EAAbCAPITAL LETTER A WITH CIRCUMFLEX AND TILDEbSMALL LETTER A WITH CIRCUMFLEX AND TILDE",
  "1EACbCAPITAL LETTER A WITH CIRCUMFLEX AND DOT BELOW",
  "1EADbSMALL LETTER A WITH CIRCUMFLEX AND DOT BELOWbCAPITAL LETTER A WITH BREVE AND ACUTE",
  "1EAFbSMALL LETTER A WITH BREVE AND ACUTEbCAPITAL LETTER A WITH BREVE AND GRAVE",
  "1EB1bSMALL LETTER A WITH BREVE AND GRAVEbCAPITAL LETTER A WITH BREVE AND HOOK ABOVE",
  "1EB3bSMALL LETTER A WITH BREVE AND HOOK ABOVEbCAPITAL LETTER A WITH BREVE AND TILDE",
  "1EB5bSMALL LETTER A WITH BREVE AND TILDEbCAPITAL LETTER A WITH BREVE AND DOT BELOW",
  "1EB7bSMALL LETTER A WITH BREVE AND DOT BELOWbCAPITAL LETTER E WITH DOT BELOW",
  "1EB9bSMALL LETTER E WITH DOT BELOWbCAPITAL LETTER E WITH HOOK ABOVE",
  "1EBBbSMALL LETTER E WITH HOOK ABOVEbCAPITAL LETTER E WITH TILDEbSMALL LETTER E WITH TILDE",
  "1EBEbCAPITAL LETTER E WITH CIRCUMFLEX AND ACUTEbSMALL LETTER E WITH CIRCUMFLEX AND ACUTE",
  "1EC0bCAPITAL LETTER E WITH CIRCUMFLEX AND GRAVEbSMALL LETTER E WITH CIRCUMFLEX AND GRAVE",
  "1EC2bCAPITAL LETTER E WITH CIRCUMFLEX AND HOOK ABOVE",
  "1EC3bSMALL LETTER E WITH CIRCUMFLEX AND HOOK ABOVE",
  "1EC4bCAPITAL LETTER E WITH CIRCUMFLEX AND TILDEbSMALL LETTER E WITH CIRCUMFLEX AND TILDE",
  "1EC6bCAPITAL LETTER E WITH CIRCUMFLEX AND DOT BELOW",
  "1EC7bSMALL LETTER E WITH CIRCUMFLEX AND DOT BELOWbCAPITAL LETTER I WITH HOOK ABOVE",
  "1EC9bSMALL LETTER I WITH HOOK ABOVEbCAPITAL LETTER I WITH DOT BELOW",
  "1ECBbSMALL LETTER I WITH DOT BELOWbCAPITAL LETTER O WITH DOT BELOW",
  "1ECDbSMALL LETTER O WITH DOT BELOWbCAPITAL LETTER O WITH HOOK ABOVE",
  "1ECFbSMALL LETTER O WITH HOOK ABOVEbCAPITAL LETTER O WITH CIRCUMFLEX AND ACUTE",
  "1ED1bSMALL LETTER O WITH CIRCUMFLEX AND ACUTEbCAPITAL LETTER O WITH CIRCUMFLEX AND GRAVE",
  "1ED3bSMALL LETTER O WITH CIRCUMFLEX AND GRAVE",
  "1ED4bCAPITAL LETTER O WITH CIRCUMFLEX AND HOOK ABOVE",
  "1ED5bSMALL LETTER O WITH CIRCUMFLEX AND HOOK ABOVE",
  "1ED6bCAPITAL LETTER O WITH CIRCUMFLEX AND TILDEbSMALL LETTER O WITH CIRCUMFLEX AND TILDE",
  "1ED8bCAPITAL LETTER O WITH CIRCUMFLEX AND DOT BELOW",
  "1ED9bSMALL LETTER O WITH CIRCUMFLEX AND DOT BELOWbCAPITAL LETTER O WITH HORN AND ACUTE",
  "1EDBbSMALL LETTER O WITH HORN AND ACUTEbCAPITAL LETTER O WITH HORN AND GRAVE",
  "1EDDbSMALL LETTER O WITH HORN AND GRAVEbCAPITAL LETTER O WITH HORN AND HOOK ABOVE",
  "1EDFbSMALL LETTER O WITH HORN AND HOOK ABOVEbCAPITAL LETTER O WITH HORN AND TILDE",
  "1EE1bSMALL LETTER O WITH HORN AND TILDEbCAPITAL LETTER O WITH HORN AND DOT BELOW",
  "1EE3bSMALL LETTER O WITH HORN AND DOT BELOWbCAPITAL LETTER U WITH DOT BELOW",
  "1EE5bSMALL LETTER U WITH DOT BELOWbCAPITAL LETTER U WITH HOOK ABOVE",
  "1EE7bSMALL LETTER U WITH HOOK ABOVEbCAPITAL LETTER U WITH HORN AND ACUTE",
  "1EE9bSMALL LETTER U WITH HORN AND ACUTEbCAPITAL LETTER U WITH HORN AND GRAVE",
  "1EEBbSMALL LETTER U WITH HORN AND GRAVEbCAPITAL LETTER U WITH HORN AND HOOK ABOVE",
  "1EEDbSMALL LETTER U WITH HORN AND HOOK ABOVEbCAPITAL LETTER U WITH HORN AND TILDE",
  "1EEFbSMALL LETTER U WITH HORN AND TILDEbCAPITAL LETTER U WITH HORN AND DOT BELOW",
  "1EF1bSMALL LETTER U WITH HORN AND DOT BELOWbCAPITAL LETTER Y WITH GRAVE",
  "1EF3bSMALL LETTER Y WITH GRAVEbCAPITAL LETTER Y WITH DOT BELOWbSMALL LETTER Y WITH DOT BELOW",
  "1EF6bCAPITAL LETTER Y WITH HOOK ABOVEbSMALL LETTER Y WITH HOOK ABOVE",
  "1EF8bCAPITAL LETTER Y WITH TILDEbSMALL LETTER Y WITH TILDEbCAPITAL LETTER MIDDLE-WELSH LL",
  "1EFBbSMALL LETTER MIDDLE-WELSH LLbCAPITAL LETTER MIDDLE-WELSH VbSMALL LETTER MIDDLE-WELSH V",
  "1EFEbCAPITAL LETTER Y WITH LOOPbSMALL LETTER Y WITH LOOPaGREEK SMALL LETTER ALPHA WITH PSILI",
  "1F01fDASIAfPSILI AND VARIAfDASIA AND VARIAfPSILI AND OXIAfDASIA AND OXIA",
  "1F06fPSILI AND PERISPOMENIfDASIA AND PERISPOMENIbCAPITAL LETTER ALPHA WITH PSILIfDASIA",
  "1F0AfPSILI AND VARIAfDASIA AND VARIAfPSILI AND OXIAfDASIA AND OXIAfPSILI AND PERISPOMENI",
  "1F0FfDASIA AND PERISPOMENIbSMALL LETTER EPSILON WITH PSILIfDASIAfPSILI AND VARIA",
  "1F13fDASIA AND VARIAfPSILI AND OXIAfDASIA AND OXIA",
  "1F18bCAPITAL LETTER EPSILON WITH PSILIfDASIAfPSILI AND VARIAfDASIA AND VARIAfPSILI AND OXIA",
  "1F1DfDASIA AND OXIA",
  "1F20bSMALL LETTER ETA WITH PSILIfDASIAfPSILI AND VARIAfDASIA AND VARIAfPSILI AND OXIA",
  "1F25fDASIA AND OXIAfPSILI AND PERISPOMENIfDASIA AND PERISPOMENI",
  "1F28bCAPITAL LETTER ETA WITH PSILIfDASIAfPSILI AND VARIAfDASIA AND VARIAfPSILI AND OXIA",
  "1F2DfDASIA AND OXIAfPSILI AND PERISPOMENIfDASIA AND PERISPOMENIbSMALL LETTER IOTA WITH PSILI",
  "1F31fDASIAfPSILI AND VARIAfDASIA AND VARIAfPSILI AND OXIAfDASIA AND OXIA",
  "1F36fPSILI AND PERISPOMENIfDASIA AND PERISPOMENIbCAPITAL LETTER IOTA WITH PSILIfDASIA",
  "1F3AfPSILI AND VARIAfDASIA AND VARIAfPSILI AND OXIAfDASIA AND OXIAfPSILI AND PERISPOMENI",
  "1F3FfDASIA AND PERISPOMENIbSMALL LETTER OMICRON WITH PSILIfDASIAfPSILI AND VARIA",
  "1F43fDASIA AND VARIAfPSILI AND OXIAfDASIA AND OXIA",
  "1F48bCAPITAL LETTER OMICRON WITH PSILIfDASIAfPSILI AND VARIAfDASIA AND VARIAfPSILI AND OXIA",
  "1F4DfDASIA AND OXIA",
  "1F50bSMALL LETTER UPSILON WITH PSILIfDASIAfPSILI AND VARIAfDASIA AND VARIAfPSILI AND OXIA",
  "1F55fDASIA AND OXIAfPSILI AND PERISPOMENIfDASIA AND PERISPOMENI",
  "1F59bCAPITAL LETTER UPSILON WITH DASIA",
  "1F5BgAND VARIA",
  "1F5DhOXIA",
  "1F5FhPERISPOMENIbSMALL LETTER OMEGA WITH PSILIfDASIAfPSILI AND VARIAfDASIA AND VARIA",
  "1F64fPSILI AND OXIAfDASIA AND OXIAfPSILI AND PERISPOMENIfDASIA AND PERISPOMENI",
  "1F68bCAPITAL LETTER OMEGA WITH PSILIfDASIAfPSILI AND VARIAfDASIA AND VARIAfPSILI AND OXIA",
  "1F6DfDASIA AND OXIAfPSILI AND PERISPOMENIfDASIA AND PERISPOMENI",
  "1F70bSMALL LETTER ALPHA WITH VARIAfOXIAdEPSILON WITH VARIAfOXIAdETA WITH VARIAfOXIA",
  "1F76dIOTA WITH VARIAfOXIAdOMICRON WITH VARIAfOXIAdUPSILON WITH VARIAfOXIAdOMEGA WITH VARIA",
  "1F7DfOXIA",
  "1F80dALPHA WITH PSILI AND YPOGEGRAMMENIfDASIA AND YPOGEGRAMMENI",
  "1F82fPSILI AND VARIA AND YPOGEGRAMMENIfDASIA AND VARIA AND YPOGEGRAMMENI",
  "1F84fPSILI AND OXIA AND YPOGEGRAMMENIfDASIA AND OXIA AND YPOGEGRAMMENI",
  "1F86fPSILI AND PERISPOMENI AND YPOGEGRAMMENIfDASIA AND PERISPOMENI AND YPOGEGRAMMENI",
  "1F88bCAPITAL LETTER ALPHA WITH PSILI AND PROSGEGRAMMENIfDASIA AND PROSGEGRAMMENI",
  "1F8AfPSILI AND VARIA AND PROSGEGRAMMENIfDASIA AND VARIA AND PROSGEGRAMMENI",
  "1F8CfPSILI AND OXIA AND PROSGEGRAMMENIfDASIA AND OXIA AND PROSGEGRAMMENI",
  "1F8EfPSILI AND PERISPOMENI AND PROSGEGRAMMENIfDASIA AND PERISPOMENI AND PROSGEGRAMMENI",
  "1F90bSMALL LETTER ETA WITH PSILI AND YPOGEGRAMMENIfDASIA AND YPOGEGRAMMENI",
  "1F92fPSILI AND VARIA AND YPOGEGRAMMENIfDASIA AND VARIA AND YPOGEGRAMMENI",
  "1F94fPSILI AND OXIA AND YPOGEGRAMMENIfDASIA AND OXIA AND YPOGEGRAMMENI",
  "1F96fPSILI AND PERISPOMENI AND YPOGEGRAMMENIfDASIA AND PERISPOMENI AND YPOGEGRAMMENI",
  "1F98bCAPITAL LETTER ETA WITH PSILI AND PROSGEGRAMMENIfDASIA AND PROSGEGRAMMENI",
  "1F9AfPSILI AND VARIA AND PROSGEGRAMMENIfDASIA AND VARIA AND PROSGEGRAMMENI",
  "1F9CfPSILI AND OXIA AND PROSGEGRAMMENIfDASIA AND OXIA AND PROSGEGRAMMENI",
  "1F9EfPSILI AND PERISPOMENI AND PROSGEGRAMMENIfDASIA AND PERISPOMENI AND PROSGEGRAMMENI",
  "1FA0bSMALL LETTER OMEGA WITH PSILI AND YPOGEGRAMMENIfDASIA AND YPOGEGRAMMENI",
  "1FA2fPSILI AND VARIA AND YPOGEGRAMMENIfDASIA AND VARIA AND YPOGEGRAMMENI",
  "1FA4fPSILI AND OXIA AND YPOGEGRAMMENIfDASIA AND OXIA AND YPOGEGRAMMENI",
  "1FA6fPSILI AND PERISPOMENI AND YPOGEGRAMMENIfDASIA AND PERISPOMENI AND YPOGEGRAMMENI",
  "1FA8bCAPITAL LETTER OMEGA WITH PSILI AND PROSGEGRAMMENIfDASIA AND PROSGEGRAMMENI",
  "1FAAfPSILI AND VARIA AND PROSGEGRAMMENIfDASIA AND VARIA AND PROSGEGRAMMENI",
  "1FACfPSILI AND OXIA AND PROSGEGRAMMENIfDASIA AND OXIA AND PROSGEGRAMMENI",
  "1FAEfPSILI AND PERISPOMENI AND PROSGEGRAMMENIfDASIA AND PERISPOMENI AND PROSGEGRAMMENI",
  "1FB0bSMALL LETTER ALPHA WITH VRACHYfMACRONfVARIA AND YPOGEGRAMMENIfYPOGEGRAMMENI",
  "1FB4fOXIA AND YPOGEGRAMMENI",
  "1FB6fPERISPOMENIgAND YPOGEGRAMMENIbCAPITAL LETTER ALPHA WITH VRACHYfMACRONfVARIAfOXIA",
  "1FBCfPROSGEGRAMMENIbKORONISbPROSGEGRAMMENIbPSILIbPERISPOMENIbDIALYTIKA AND PERISPOMENI",
  "1FC2bSMALL LETTER ETA WITH VARIA AND YPOGEGRAMMENIfYPOGEGRAMMENIfOXIA AND YPOGEGRAMMENI",
  "1FC6fPERISPOMENIgAND YPOGEGRAMMENIbCAPITAL LETTER EPSILON WITH VARIAfOXIAdETA WITH VARIA",
  "1FCBfOXIAfPROSGEGRAMMENIbPSILI AND VARIAdOXIAdPERISPOMENIbSMALL LETTER IOTA WITH VRACHY",
  "1FD1fMACRONfDIALYTIKA AND VARIAhOXIA",
  "1FD6fPERISPOMENIfDIALYTIKA AND PERISPOMENIbCAPITAL LETTER IOTA WITH VRACHYfMACRONfVARIAfOXIA",
  "1FDDbDASIA AND VARIAdOXIAdPERISPOMENIbSMALL LETTER UPSILON WITH VRACHYfMACRON",
  "1FE2fDIALYTIKA AND VARIAhOXIAdRHO WITH PSILIfDASIAdUPSILON WITH PERISPOMENI",
  "1FE7fDIALYTIKA AND PERISPOMENIbCAPITAL LETTER UPSILON WITH VRACHYfMACRONfVARIAfOXIA",
  "1FECdRHO WITH DASIAbDIALYTIKA AND VARIAdOXIAbVARIA",
  "1FF2bSMALL LETTER OMEGA WITH VARIA AND YPOGEGRAMMENIfYPOGEGRAMMENIfOXIA AND YPOGEGRAMMENI",
  "1FF6fPERISPOMENIgAND YPOGEGRAMMENIbCAPITAL LETTER OMICRON WITH VARIAfOXIAdOMEGA WITH VARIA",
  "1FFBfOXIAfPROSGEGRAMMENIbOXIAbDASIA"]

end Stencil.CodePoint.Name
