/-!
# Names of notations

The names of the code points from 1B000 to 1EFFF: kana that came later, shorthand, music,
mathematical letters and sign writing. The rows are read by the lookup of names.

## Main definitions

* `CodePoint.Name.notations` — the rows.
-/

namespace Stencil.CodePoint.Name

/-- The names of the code points from 1B000 to 1EFFF. -/
def notations : List String :=
  ["1B000aKATAKANA LETTER ARCHAIC EaHIRAGANA LETTER ARCHAIC YEaHENTAIGANA LETTER A-1cA-2cA-3",
  "1B005cA-WOcI-1cI-2cI-3cI-4cU-1cU-2cU-3cU-4cU-5cE-2cE-3cE-4cE-5cE-6cO-1cO-2cO-3cKA-1cKA-2",
  "1B019cKA-3cKA-4cKA-5cKA-6cKA-7cKA-8cKA-9cKA-10cKA-11cKA-KEcKI-1cKI-2cKI-3cKI-4cKI-5cKI-6",
  "1B029cKI-7cKI-8cKU-1cKU-2cKU-3cKU-4cKU-5cKU-6cKU-7cKE-1cKE-2cKE-3cKE-4cKE-5cKE-6cKO-1cKO-2",
  "1B03AcKO-3cKO-KIcSA-1cSA-2cSA-3cSA-4cSA-5cSA-6cSA-7cSA-8cSI-1cSI-2cSI-3cSI-4cSI-5cSI-6cSU-1",
  "1B04BcSU-2cSU-3cSU-4cSU-5cSU-6cSU-7cSU-8cSE-1cSE-2cSE-3cSE-4cSE-5cSO-1cSO-2cSO-3cSO-4cSO-5",
  "1B05CcSO-6cSO-7cTA-1cTA-2cTA-3cTA-4cTI-1cTI-2cTI-3cTI-4cTI-5cTI-6cTI-7cTU-1cTU-2cTU-3cTU-4",
  "1B06DcTU-TOcTE-1cTE-2cTE-3cTE-4cTE-5cTE-6cTE-7cTE-8cTE-9cTO-1cTO-2cTO-3cTO-4cTO-5cTO-6cTO-RA",
  "1B07EcNA-1cNA-2cNA-3cNA-4cNA-5cNA-6cNA-7cNA-8cNA-9cNI-1cNI-2cNI-3cNI-4cNI-5cNI-6cNI-7cNI-TE",
  "1B08FcNU-1cNU-2cNU-3cNE-1cNE-2cNE-3cNE-4cNE-5cNE-6cNE-KOcNO-1cNO-2cNO-3cNO-4cNO-5cHA-1cHA-2",
  "1B0A0cHA-3cHA-4cHA-5cHA-6cHA-7cHA-8cHA-9cHA-10cHA-11cHI-1cHI-2cHI-3cHI-4cHI-5cHI-6cHI-7cHU-1",
  "1B0B1cHU-2cHU-3cHE-1cHE-2cHE-3cHE-4cHE-5cHE-6cHE-7cHO-1cHO-2cHO-3cHO-4cHO-5cHO-6cHO-7cHO-8",
  "1B0C2cMA-1cMA-2cMA-3cMA-4cMA-5cMA-6cMA-7cMI-1cMI-2cMI-3cMI-4cMI-5cMI-6cMI-7cMU-1cMU-2cMU-3",
  "1B0D3cMU-4cME-1cME-2cME-MAcMO-1cMO-2cMO-3cMO-4cMO-5cMO-6cYA-1cYA-2cYA-3cYA-4cYA-5cYA-YOcYU-1",
  "1B0E4cYU-2cYU-3cYU-4cYO-1cYO-2cYO-3cYO-4cYO-5cYO-6cRA-1cRA-2cRA-3cRA-4cRI-1cRI-2cRI-3cRI-4",
  "1B0F5cRI-5cRI-6cRI-7cRU-1cRU-2cRU-3cRU-4cRU-5cRU-6cRE-1cRE-2cRE-3cRE-4cRO-1cRO-2cRO-3cRO-4",
  "1B106cRO-5cRO-6cWA-1cWA-2cWA-3cWA-4cWA-5cWI-1cWI-2cWI-3cWI-4cWI-5cWE-1cWE-2cWE-3cWE-4cWO-1",
  "1B117cWO-2cWO-3cWO-4cWO-5cWO-6cWO-7cN-MU-MO-1cN-MU-MO-2aHIRAGANA LETTER ARCHAIC WU",
  "1B120aKATAKANA LETTER ARCHAIC YIdYEdWU",
  "1B150aHIRAGANA LETTER SMALL WIdWEdWO",
  "1B164aKATAKANA LETTER SMALL WIdWEdWOdN",
  "1BC00aDUPLOYAN LETTER HcXcPcTcFcKcLcBcDcVcGcRcP NcD ScF NcK McR ScTHcSLOAN DHcDHcKKcSLOAN J",
  "1BC16cHLcLHcRHcMcNcJcScM NcN McJ McS JcM WITH DOTcN WITH DOTcJ WITH DOT",
  "1BC24eDOTS INSIDE AND ABOVEcS WITH DOTfBELOWcM ScN ScJ ScS ScM N ScN M ScJ M ScS J S",
  "1BC2FcJ S WITH DOTdNeScS TeRdPeRcT SdR ScWcWHcW RcS NdMcK R ScG R ScS KeRcAcSLOAN OWcOAcO",
  "1BC45cAOUcIcEcIEcSHORT IcUIcEEcSLOAN EHcROMANIAN IcSLOAN EEcLONG IcYEcUcEUcXWcU NcLONG U",
  "1BC56cROMANIAN UcUHcSLOAN UcOOHcOWcOUcWAcWOcWIcWEIcWOWcNASAL UdOdIdAcPERNIN ANdAMcSLOAN EN",
  "1BC68dANdONcVOCALIC M",
  "1BC70bAFFIX LEFT HORIZONTAL SECANTcMID HORIZONTAL SECANTcRIGHT HORIZONTAL SECANT",
  "1BC73cLOW VERTICAL SECANTcMID VERTICAL SECANTcHIGH VERTICAL SECANTcATTACHED SECANT",
  "1BC77dLEFT-TO-RIGHT SECANTdTANGENTdTAILdE HOOKdI HOOKdTANGENT HOOK",
  "1BC80cHIGH ACUTEdTIGHT ACUTEdGRAVEdLONG GRAVEdDOTdCIRCLEdLINEdWAVEdVERTICAL",
  "1BC90cLOW ACUTEdTIGHT ACUTEdGRAVEdLONG GRAVEdDOTdCIRCLEdLINEdWAVEdVERTICALdARROW",
  "1BC9CbSIGN O WITH CROSSbTHICK LETTER SELECTORbDOUBLE MARKbPUNCTUATION CHINOOK FULL STOP",
  "1BCA0aSHORTHAND FORMAT LETTER OVERLAPcCONTINUING OVERLAPcDOWN STEPcUP STEP",
  "1CF00aZNAMENNY COMBINING MARK GORAZDO NIZKO S KRYZHEM ON LEFTdNIZKO S KRYZHEM ON LEFT",
  "1CF02dTSATA ON LEFTdGORAZDO NIZKO ON LEFTdNIZKO ON LEFTdSREDNE ON LEFTdMALO POVYSHE ON LEFT",
  "1CF07dPOVYSHE ON LEFTdVYSOKO ON LEFTdMALO POVYSHE S KHOKHLOM ON LEFT",
  "1CF0AdPOVYSHE S KHOKHLOM ON LEFTdVYSOKO S KHOKHLOM ON LEFTdGORAZDO NIZKO S KRYZHEM ON RIGHT",
  "1CF0DdNIZKO S KRYZHEM ON RIGHTdTSATA ON RIGHTdGORAZDO NIZKO ON RIGHTdNIZKO ON RIGHT",
  "1CF11dSREDNE ON RIGHTdMALO POVYSHE ON RIGHTdPOVYSHE ON RIGHTdVYSOKO ON RIGHT",
  "1CF15dMALO POVYSHE S KHOKHLOM ON RIGHTdPOVYSHE S KHOKHLOM ON RIGHT",
  "1CF17dVYSOKO S KHOKHLOM ON RIGHTdTSATA S KRYZHEMdMALO POVYSHE S KRYZHEMdSTRANNO MALO POVYSHE",
  "1CF1BdPOVYSHE S KRYZHEMeSTRANNOdVYSOKO S KRYZHEMdMALO POVYSHE STRANNOdGORAZDO VYSOKOdZELOdON",
  "1CF22dRAVNOdTIKHAYAdBORZAYAdUDARKAdPODVERTKAdLOMKAdKUPNAYAdKACHKAdZEVOKdSKOBAdRAZSEKA",
  "1CF2DdKRYZH ON LEFT",
  "1CF30cTONAL RANGE MARK MRACHNOfSVETLOfTRESVETLOcMARK ZADERZHKAdDEMESTVENNY ZADERZHKA",
  "1CF35dOTSECHKAdPODCHASHIEeWITH VERTICAL STROKEdCHASHKAePOLNAYAdOBLACHKOdSOROCHYA NOZHKA",
  "1CF3CdTOCHKAdDVOETOCHIEcATTACHING VERTICAL OMETcMARK CURVED OMETdKRYZH",
  "1CF41cLOWER TONAL RANGE INDICATORbPRIZNAK MODIFIER LEVEL-2dLEVEL-3dDIRECTION FLIPdKRYZHdROG",
  "1CF50bNEUME KRYUKdTIKHYcPARAKLITcDVA V CHELNUcKLYUCHcZANOZHEKcSTOPITSAdS OCHKOMcPEREVODKA",
  "1CF59dNEPOSTOYANNAYAcSTOPITSA WITH SOROCHYA NOZHKAcCHELYUSTKAcPALKAcZAPYATAYA",
  "1CF5EcGOLUBCHIK BORZYdTIKHYdMRACHNYdSVETLYdTRESVETLYcVRAKHIYA PROSTAYAdMRACHNAYAdSVETLAYA",
  "1CF66dTRESVETLAYAdKLYUCHEVAYA PROSTAYAeMRACHNAYAeSVETLAYAeTRESVETLAYAcDOUBLE ZAPYATAYA",
  "1CF6CcREVERSED CHELYUSTKAcDERBITSAcKHAMILOcCHASHKAcPODCHASHIEcSKAMEYTSA MRACHNAYAdSVETLAYA",
  "1CF73dTRESVETLAYAdTIKHAYAcDEMESTVENNY KLYUCHcSKAMEYTSA KLYUCHEVAYA SVETLAYA",
  "1CF77dKLYUCHENEPOSTOYANNAYAdKLYUCHEVAYA TIKHAYAdDVOECHELNAYA PROSTAYAeSVETLAYA",
  "1CF7BeNEPOSTOYANNAYAeKLYUCHEVAYAcSLOZHITIEdS ZAPYATOYdZAKRYTOEdS KRYZHEMcKRYZHcROGcFITA",
  "1CF84cKOBYLAcZMEYTSAcSTATYAdS ZAPYATOYeKRYZHEMeZAPYATOY I KRYZHEMeKRYZHEM I ZAPYATOY",
  "1CF8BdZAKRYTAYAeS ZAPYATOYdS ROGOMeDVUMYA ZAPYATYMIeZAPYATOY I PODCHASHIEMcPOLKULIZMY",
  "1CF91cSTATYA NEPOSTOYANNAYAcSTRELA PROSTAYAdMRACHNOTIKHAYAdKRYZHEVAYAdPOLUPOVODNAYA",
  "1CF96dPOVODNAYAdNEPOSTOYANNAYAdKLYUCHEPOVODNAYAdKLYUCHENEPOSTOYANNAYAdTIKHAYA PUTNAYA",
  "1CF9BdDVOECHELNAYAdDVOECHELNOKRYZHEVAYAdDVOECHELNOPOVODNAYAdDVOECHELNAYA KLYUCHEVAYA",
  "1CF9FdDVOECHELNOPOVODNAYA KLYUCHEVAYAdGROMNAYA WITH SINGLE ZAPYATAYA",
  "1CFA1dGROMOPOVODNAYA WITH SINGLE ZAPYATAYAdGROMNAYAdGROMOPOVODNAYAeWITH DOUBLE ZAPYATAYA",
  "1CFA5dGROMOKRYZHEVAYAePOVODNAYAcMECHIKdPOVODNYdKLYUCHEVOYdKLYUCHEPOVODNYdKLYUCHENEPOSTOYANNY",
  "1CFACcSTRELA TRYASOGLASNAYAdTRYASOPOVODNAYAdTRYASOSTRELNAYAcOSOKAdSVETLAYAdTRESVETLAYA",
  "1CFB2dKRYUKOVAYA SVETLAYAdKLYUCHEVAYA SVETLAYAeNEPOSTOYANNAYAcSTRELA KRYUKOVAYAePOVODNAYA",
  "1CFB7eGROMNAYA WITH SINGLE ZAPYATAYAeGROMOPOVODNAYA WITH SINGLE ZAPYATAYAeGROMNAYA",
  "1CFBAeGROMOPOVODNAYAfWITH DOUBLE ZAPYATAYAeGROMOKRYZHEVAYAfPOVODNAYAeTRYASKAcKUFISMAcOBLAKO",
  "1CFC1cDUDAcNEMKAcPAUK",
  "1D000aBYZANTINE MUSICAL SYMBOL PSILIdDASEIAdPERISPOMENIdOXEIA EKFONITIKONeDIPLI",
  "1D005dVAREIA EKFONITIKONeDIPLIdKATHISTIdSYRMATIKIdPARAKLITIKIdYPOKRISISeDIPLIdKREMASTI",
  "1D00DdAPESO EKFONITIKONdEXO EKFONITIKONdTELEIAdKENTIMATAdAPOSTROFOSeDIPLIdSYNEVMAdTHITA",
  "1D015dOLIGON ARCHAIONdGORGON ARCHAIONdPSILONdCHAMILONdVATHYdISON ARCHAIONdKENTIMA ARCHAION",
  "1D01CdKENTIMATA ARCHAIONdSAXIMATAdPARICHONdSTAVROS APODEXIAdOXEIAI ARCHAIONdVAREIAI ARCHAION",
  "1D022dAPODERMA ARCHAIONdAPOTHEMAdKLASMAdREVMAdPIASMA ARCHAIONdTINAGMAdANATRICHISMAdSEISMA",
  "1D02AdSYNAGMA ARCHAIONeMETA STAVROUdOYRANISMA ARCHAIONdTHEMAdLEMOIdDYOdTRIAdTESSERA",
  "1D032dKRATIMATAdAPESO EXO NEOdFTHORA ARCHAIONdIMIFTHORAdTROMIKON ARCHAIONdKATAVA TROMIKON",
  "1D038dPELASTONdPSIFISTONdKONTEVMAdCHOREVMA ARCHAIONdRAPISMAdPARAKALESMA ARCHAION",
  "1D03EdPARAKLITIKI ARCHAIONdICHADINdNANAdPETASMAdKONTEVMA ALLOdTROMIKON ALLOdSTRAGGISMATA",
  "1D045dGRONTHISMATAdISON NEOdOLIGON NEOdOXEIA NEOdPETASTIdKOUFISMAdPETASTOKOUFISMA",
  "1D04CdKRATIMOKOUFISMAdPELASTON NEOdKENTIMATA NEO ANOdKENTIMA NEO ANOdYPSILIdAPOSTROFOS NEO",
  "1D052dAPOSTROFOI SYNDESMOS NEOdYPORROIdKRATIMOYPORROONdELAFRONdCHAMILIdMIKRON ISON",
  "1D058dVAREIA NEOdPIASMA NEOdPSIFISTON NEOdOMALONdANTIKENOMAdLYGISMAdPARAKLITIKI NEO",
  "1D05FdPARAKALESMA NEOdETERON PARAKALESMAdKYLISMAdANTIKENOKYLISMAdTROMIKON NEOdEKSTREPTON",
  "1D065dSYNAGMA NEOdSYRMAdCHOREVMA NEOdEPEGERMAdSEISMA NEOdXIRON KLASMAdTROMIKOPSIFISTON",
  "1D06CdPSIFISTOLYGISMAdTROMIKOLYGISMAdTROMIKOPARAKALESMAdPSIFISTOPARAKALESMAdTROMIKOSYNAGMA",
  "1D071dPSIFISTOSYNAGMAdGORGOSYNTHETONdARGOSYNTHETONdETERON ARGOSYNTHETONdOYRANISMA NEO",
  "1D076dTHEMATISMOS ESOeEXOdTHEMA APLOUNdTHES KAI APOTHESdKATAVASMAdENDOFONONdYFEN KATOeANO",
  "1D07EdSTAVROSdKLASMA ANOdDIPLI ARCHAIONdKRATIMA ARCHAIONeALLOeNEOdAPODERMA NEOdAPLIdDIPLI",
  "1D087dTRIPLIdTETRAPLIdKORONISdLEIMMA ENOS CHRONOUeDYO CHRONONeTRION CHRONONeTESSARON CHRONON",
  "1D08EeIMISEOS CHRONOUdGORGON NEO ANOePARESTIGMENON ARISTERAfDEXIAdDIGORGON",
  "1D093ePARESTIGMENON ARISTERA KATOgANOfDEXIAdTRIGORGONdARGONdIMIDIARGONdDIARGON",
  "1D09AdAGOGI POLI ARGIeARGOTERIeARGIeMETRIAeMESIeGORGIeGORGOTERIePOLI GORGI",
  "1D0A2dMARTYRIA PROTOS ICHOSeALLI PROTOS ICHOSeDEYTEROS ICHOSeALLI DEYTEROS ICHOS",
  "1D0A6eTRITOS ICHOSeTRIFONIASeTETARTOS ICHOSfLEGETOS ICHOSeLEGETOS ICHOSePLAGIOS ICHOS",
  "1D0ACdISAKIA TELOUS ICHIMATOSdAPOSTROFOI TELOUS ICHIMATOSdFANEROSIS TETRAFONIASeMONOFONIAS",
  "1D0B0eDIFONIASdMARTYRIA VARYS ICHOSePROTOVARYS ICHOSePLAGIOS TETARTOS ICHOS",
  "1D0B4dGORTHMIKON N APLOUNfDIPLOUNdENARXIS KAI FTHORA VOUdIMIFONONdIMIFTHORON",
  "1D0B9dFTHORA ARCHAION DEYTEROU ICHOUeDIATONIKI PAfNANAeNAOS ICHOSeDIATONIKI DI",
  "1D0BEeSKLIRON DIATONON DIeDIATONIKI KEfZOfNI KATOgANOeMALAKON CHROMA DIFONIASgMONOFONIAS",
  "1D0C5dFHTORA SKLIRON CHROMA VASISdFTHORA SKLIRON CHROMA SYNAFIeNENANOdCHROA ZYGOSeKLITON",
  "1D0CAeSPATHIdFTHORA I YFESIS TETARTIMORIONeENARMONIOS ANTIFONIAdYFESIS TRITIMORION",
  "1D0CEdDIESIS TRITIMORIONeTETARTIMORIONeAPLI DYO DODEKATAeMONOGRAMMOS TESSERA DODEKATA",
  "1D0D2eDIGRAMMOS EX DODEKATAeTRIGRAMMOS OKTO DODEKATAdYFESIS APLI DYO DODEKATA",
  "1D0D5eMONOGRAMMOS TESSERA DODEKATAeDIGRAMMOS EX DODEKATAeTRIGRAMMOS OKTO DODEKATA",
  "1D0D8dGENIKI DIESISeYFESISdDIASTOLI APLI MIKRIfMEGALIeDIPLIeTHESEOSdSIMANSIS THESEOSfDISIMOU",
  "1D0E0fTRISIMOUfTETRASIMOUeARSEOSfDISIMOUfTRISIMOUfTETRASIMOUdDIGRAMMA GGdDIFTOGGOS OUdSTIGMA",
  "1D0E9dARKTIKO PAeVOUeGAeDIeKEeZOeNIdKENTIMATA NEO MESOdKENTIMA NEO MESOdKENTIMATA NEO KATO",
  "1D0F3dKENTIMA NEO KATOdKLASMA KATOdGORGON NEO KATO",
  "1D100aMUSICAL SYMBOL SINGLE BARLINEcDOUBLE BARLINEcFINAL BARLINEcREVERSE FINAL BARLINE",
  "1D104cDASHED BARLINEcSHORT BARLINEcLEFT REPEAT SIGNcRIGHT REPEAT SIGNcREPEAT DOTScDAL SEGNO",
  "1D10AcDA CAPOcSEGNOcCODAcREPEATED FIGURE-1dFIGURE-2dFIGURE-3cFERMATAdBELOWcBREATH MARK",
  "1D113cCAESURAcBRACEcBRACKETcONE-LINE STAFFcTWO-LINE STAFFcTHREE-LINE STAFFcFOUR-LINE STAFF",
  "1D11AcFIVE-LINE STAFFcSIX-LINE STAFFcSIX-STRING FRETBOARDcFOUR-STRING FRETBOARDcG CLEF",
  "1D11FeOTTAVA ALTAfBASSAcC CLEFcF CLEFeOTTAVA ALTAfBASSAcDRUM CLEF-1dCLEF-2",
  "1D129cMULTIPLE MEASURE RESTcDOUBLE SHARPdFLATcFLAT UPdDOWNcNATURAL UPdDOWNcSHARP UPdDOWN",
  "1D132cQUARTER TONE SHARPeFLATcCOMMON TIMEcCUT TIMEcOTTAVA ALTAdBASSAcQUINDICESIMA ALTAdBASSA",
  "1D13AcMULTI RESTcWHOLE RESTcHALF RESTcQUARTER RESTcEIGHTH RESTcSIXTEENTH REST",
  "1D140cTHIRTY-SECOND RESTcSIXTY-FOURTH RESTcONE HUNDRED TWENTY-EIGHTH RESTcX NOTEHEAD",
  "1D144cPLUS NOTEHEADcCIRCLE X NOTEHEADcSQUARE NOTEHEAD WHITEeBLACKcTRIANGLE NOTEHEAD UP WHITE",
  "1D149fBLACKeLEFT WHITEfBLACKeRIGHT WHITEfBLACKeDOWN WHITEfBLACKeUP RIGHT WHITEgBLACK",
  "1D152cMOON NOTEHEAD WHITEeBLACKcTRIANGLE-ROUND NOTEHEAD DOWN WHITEfBLACK",
  "1D156cPARENTHESIS NOTEHEADcVOID NOTEHEADcNOTEHEAD BLACKcNULL NOTEHEADcCLUSTER NOTEHEAD WHITE",
  "1D15BeBLACKcBREVEcWHOLE NOTEcHALF NOTEcQUARTER NOTEcEIGHTH NOTEcSIXTEENTH NOTE",
  "1D162cTHIRTY-SECOND NOTEcSIXTY-FOURTH NOTEcONE HUNDRED TWENTY-EIGHTH NOTEcCOMBINING STEM",
  "1D166dSPRECHGESANG STEMdTREMOLO-1dTREMOLO-2dTREMOLO-3cFINGERED TREMOLO-1dTREMOLO-2dTREMOLO-3",
  "1D16DcCOMBINING AUGMENTATION DOTdFLAG-1dFLAG-2dFLAG-3dFLAG-4dFLAG-5cBEGIN BEAMcEND BEAM",
  "1D175cBEGIN TIEcEND TIEcBEGIN SLURcEND SLURcBEGIN PHRASEcEND PHRASEcCOMBINING ACCENT",
  "1D17CdSTACCATOdTENUTOdSTACCATISSIMOdMARCATOdMARCATO-STACCATOdACCENT-STACCATOdLOURE",
  "1D183cARPEGGIATO UPdDOWNcCOMBINING DOITdRIPdFLIPdSMEARdBENDdDOUBLE TONGUEdTRIPLE TONGUE",
  "1D18CcRINFORZANDOcSUBITOcZcPIANOcMEZZOcFORTEcCRESCENDOcDECRESCENDOcGRACE NOTE SLASHeNO SLASH",
  "1D196cTRcTURNcINVERTED TURNcTURN SLASHdUPcORNAMENT STROKE-1dSTROKE-2dSTROKE-3dSTROKE-4",
  "1D19FdSTROKE-5dSTROKE-6dSTROKE-7dSTROKE-8dSTROKE-9dSTROKE-10dSTROKE-11cHAUPTSTIMME",
  "1D1A7cNEBENSTIMMEcEND OF STIMMEcDEGREE SLASHcCOMBINING DOWN BOWdUP BOWdHARMONIC",
  "1D1ADdSNAP PIZZICATOcPEDAL MARKdUP MARKcHALF PEDAL MARKcGLISSANDO UPdDOWNcWITH FINGERNAILS",
  "1D1B4cDAMPdALLcMAXIMAcLONGAcBREVIScSEMIBREVIS WHITEdBLACKcMINIMAdBLACKcSEMIMINIMA WHITE",
  "1D1BEdBLACKcFUSA WHITEdBLACKcLONGA PERFECTA RESTdIMPERFECTA RESTcBREVIS RESTcSEMIBREVIS REST",
  "1D1C5cMINIMA RESTcSEMIMINIMA RESTcTEMPUS PERFECTUM CUM PROLATIONE PERFECTAgIMPERFECTA",
  "1D1C9gPERFECTA DIMINUTION-1dIMPERFECTUM CUM PROLATIONE PERFECTAgIMPERFECTAhDIMINUTION-1",
  "1D1CDhDIMINUTION-2hDIMINUTION-3cCROIXcGREGORIAN C CLEFdF CLEFcSQUARE BcVIRGAcPODATUScCLIVIS",
  "1D1D6cSCANDICUScCLIMACUScTORCULUScPORRECTUSdFLEXUScSCANDICUS FLEXUScTORCULUS RESUPINUS",
  "1D1DDcPES SUBPUNCTIScKIEVAN C CLEFdEND OF PIECEdFINAL NOTEdRECITATIVE MARKdWHOLE NOTE",
  "1D1E3dHALF NOTEdQUARTER NOTE STEM DOWNgUPdEIGHTH NOTE STEM DOWNgUPdFLAT SIGNcSORIcKORON",
  "1D200aGREEK VOCAL NOTATION SYMBOL-1dSYMBOL-2dSYMBOL-3dSYMBOL-4dSYMBOL-5dSYMBOL-6dSYMBOL-7",
  "1D207dSYMBOL-8dSYMBOL-9dSYMBOL-10dSYMBOL-11dSYMBOL-12dSYMBOL-13dSYMBOL-14dSYMBOL-15",
  "1D20FdSYMBOL-16dSYMBOL-17dSYMBOL-18dSYMBOL-19dSYMBOL-20dSYMBOL-21dSYMBOL-22dSYMBOL-23",
  "1D217dSYMBOL-24dSYMBOL-50dSYMBOL-51dSYMBOL-52dSYMBOL-53dSYMBOL-54",
  "1D21DbINSTRUMENTAL NOTATION SYMBOL-1dSYMBOL-2dSYMBOL-4dSYMBOL-5dSYMBOL-7dSYMBOL-8dSYMBOL-11",
  "1D224dSYMBOL-12dSYMBOL-13dSYMBOL-14dSYMBOL-17dSYMBOL-18dSYMBOL-19dSYMBOL-23dSYMBOL-24",
  "1D22CdSYMBOL-25dSYMBOL-26dSYMBOL-27dSYMBOL-29dSYMBOL-30dSYMBOL-32dSYMBOL-36dSYMBOL-37",
  "1D234dSYMBOL-38dSYMBOL-39dSYMBOL-40dSYMBOL-42dSYMBOL-43dSYMBOL-45dSYMBOL-47dSYMBOL-48",
  "1D23CdSYMBOL-49dSYMBOL-50dSYMBOL-51dSYMBOL-52dSYMBOL-53dSYMBOL-54",
  "1D242aCOMBINING GREEK MUSICAL TRISEMEdTETRASEMEdPENTASEMEaGREEK MUSICAL LEIMMA",
  "1D2E0aMAYAN NUMERAL ZEROcONEcTWOcTHREEcFOURcFIVEcSIXcSEVENcEIGHTcNINEcTENcELEVENcTWELVE",
  "1D2EDcTHIRTEENcFOURTEENcFIFTEENcSIXTEENcSEVENTEENcEIGHTEENcNINETEEN",
  "1D300aMONOGRAM FOR EARTHaDIGRAM FOR HEAVENLY EARTHcHUMAN EARTHcEARTHLY HEAVENdHUMANcEARTH",
  "1D306aTETRAGRAM FOR CENTREcFULL CIRCLEcMIREDcBARRIERcKEEPING SMALLcCONTRARIETYcASCENT",
  "1D30DcOPPOSITIONcBRANCHING OUTcDEFECTIVENESS OR DISTORTIONcDIVERGENCEcYOUTHFULNESScINCREASE",
  "1D313cPENETRATIONcREACHcCONTACTcHOLDING BACKcWAITINGcFOLLOWINGcADVANCEcRELEASEcRESISTANCE",
  "1D31CcEASEcJOYcCONTENTIONcENDEAVOURcDUTIEScCHANGEcDECISIVENESScBOLD RESOLUTIONcPACKING",
  "1D325cLEGIONcCLOSENESScKINSHIPcGATHERINGcSTRENGTHcPURITYcFULLNESScRESIDENCEcLAW OR MODEL",
  "1D32EcRESPONSEcGOING TO MEETcENCOUNTERScSTOVEcGREATNESScENLARGEMENTcPATTERNcRITUALcFLIGHT",
  "1D337cVASTNESS OR WASTINGcCONSTANCYcMEASUREcETERNITYcUNITYcDIMINISHMENTcCLOSED MOUTH",
  "1D33EcGUARDEDNESScGATHERING INcMASSINGcACCUMULATIONcEMBELLISHMENTcDOUBTcWATCHcSINKINGcINNER",
  "1D347cDEPARTUREcDARKENINGcDIMMINGcEXHAUSTIONcSEVERANCEcSTOPPAGEcHARDNESScCOMPLETIONcCLOSURE",
  "1D350cFAILUREcAGGRAVATIONcCOMPLIANCEcON THE VERGEcDIFFICULTIEScLABOURINGcFOSTERING",
  "1D360aCOUNTING ROD UNIT DIGIT ONEeTWOeTHREEeFOUReFIVEeSIXeSEVENeEIGHTeNINEcTENS DIGIT ONE",
  "1D36AeTWOeTHREEeFOUReFIVEeSIXeSEVENeEIGHTeNINEaIDEOGRAPHIC TALLY MARK ONEdTWOdTHREEdFOUR",
  "1D376dFIVEaTALLY MARK ONEcFIVE",
  "1D400aMATHEMATICAL BOLD CAPITAL AdBdCdDdEdFdGdHdIdJdKdLdMdNdOdPdQdRdSdTdUdVdWdXdYdZcSMALL A",
  "1D41BdBdCdDdEdFdGdHdIdJdKdLdMdNdOdPdQdRdSdTdUdVdWdXdYdZbITALIC CAPITAL AdBdCdDdEdFdGdHdIdJdK",
  "1D43FdLdMdNdOdPdQdRdSdTdUdVdWdXdYdZcSMALL AdBdCdDdEdFdG",
  "1D456dIdJdKdLdMdNdOdPdQdRdSdTdUdVdWdXdYdZbBOLD ITALIC CAPITAL AeBeCeDeEeFeGeHeIeJeKeLeMeNeO",
  "1D477ePeQeReSeTeUeVeWeXeYeZdSMALL AeBeCeDeEeFeGeHeIeJeKeLeMeNeOePeQeReSeTeUeVeWeXeYeZ",
  "1D49CbSCRIPT CAPITAL A",
  "1D49EdCdD",
  "1D4A2dG",
  "1D4A5dJdK",
  "1D4A9dNdOdPdQ",
  "1D4AEdSdTdUdVdWdXdYdZcSMALL AdBdCdD",
  "1D4BBdF",
  "1D4BDdHdIdJdKdLdMdN",
  "1D4C5dPdQdRdSdTdUdVdWdXdYdZbBOLD SCRIPT CAPITAL AeBeCeDeEeFeGeHeIeJeKeLeMeNeOePeQeReSeTeUeV",
  "1D4E6eWeXeYeZdSMALL AeBeCeDeEeFeGeHeIeJeKeLeMeNeOePeQeReSeTeUeVeWeXeYeZbFRAKTUR CAPITAL AdB",
  "1D507dDdEdFdG",
  "1D50DdJdKdLdMdNdOdPdQ",
  "1D516dSdTdUdVdWdXdY",
  "1D51EcSMALL AdBdCdDdEdFdGdHdIdJdKdLdMdNdOdPdQdRdSdTdUdVdWdXdYdZbDOUBLE-STRUCK CAPITAL AdB",
  "1D53BdDdEdFdG",
  "1D540dIdJdKdLdM",
  "1D546dO",
  "1D54AdSdTdUdVdWdXdY",
  "1D552cSMALL AdBdCdDdEdFdGdHdIdJdKdLdMdNdOdPdQdRdSdTdUdVdWdXdYdZbBOLD FRAKTUR CAPITAL AeBeCeD",
  "1D570eEeFeGeHeIeJeKeLeMeNeOePeQeReSeTeUeVeWeXeYeZdSMALL AeBeCeDeEeFeGeHeIeJeKeLeMeNeOePeQeR",
  "1D598eSeTeUeVeWeXeYeZbSANS-SERIF CAPITAL AdBdCdDdEdFdGdHdIdJdKdLdMdNdOdPdQdRdSdTdUdVdWdXdYdZ",
  "1D5BAcSMALL AdBdCdDdEdFdGdHdIdJdKdLdMdNdOdPdQdRdSdTdUdVdWdXdYdZcBOLD CAPITAL AeBeCeDeEeFeGeH",
  "1D5DCeIeJeKeLeMeNeOePeQeReSeTeUeVeWeXeYeZdSMALL AeBeCeDeEeFeGeHeIeJeKeLeMeNeOePeQeReSeTeUeV",
  "1D604eWeXeYeZcITALIC CAPITAL AeBeCeDeEeFeGeHeIeJeKeLeMeNeOePeQeReSeTeUeVeWeXeYeZdSMALL AeBeC",
  "1D625eDeEeFeGeHeIeJeKeLeMeNeOePeQeReSeTeUeVeWeXeYeZcBOLD ITALIC CAPITAL AfBfCfDfEfFfGfHfIfJ",
  "1D646fKfLfMfNfOfPfQfRfSfTfUfVfWfXfYfZeSMALL AfBfCfDfEfFfGfHfIfJfKfLfMfNfOfPfQfRfSfTfUfVfWfX",
  "1D66EfYfZbMONOSPACE CAPITAL AdBdCdDdEdFdGdHdIdJdKdLdMdNdOdPdQdRdSdTdUdVdWdXdYdZcSMALL AdBdC",
  "1D68DdDdEdFdGdHdIdJdKdLdMdNdOdPdQdRdSdTdUdVdWdXdYdZbITALIC SMALL DOTLESS IeJ",
  "1D6A8bBOLD CAPITAL ALPHAdBETAdGAMMAdDELTAdEPSILONdZETAdETAdTHETAdIOTAdKAPPAdLAMDAdMUdNUdXI",
  "1D6B6dOMICRONdPIdRHOdTHETA SYMBOLdSIGMAdTAUdUPSILONdPHIdCHIdPSIdOMEGAcNABLAcSMALL ALPHAdBETA",
  "1D6C4dGAMMAdDELTAdEPSILONdZETAdETAdTHETAdIOTAdKAPPAdLAMDAdMUdNUdXIdOMICRONdPIdRHO",
  "1D6D3dFINAL SIGMAdSIGMAdTAUdUPSILONdPHIdCHIdPSIdOMEGAcPARTIAL DIFFERENTIALcEPSILON SYMBOL",
  "1D6DDcTHETA SYMBOLcKAPPA SYMBOLcPHI SYMBOLcRHO SYMBOLcPI SYMBOLbITALIC CAPITAL ALPHAdBETA",
  "1D6E4dGAMMAdDELTAdEPSILONdZETAdETAdTHETAdIOTAdKAPPAdLAMDAdMUdNUdXIdOMICRONdPIdRHO",
  "1D6F3dTHETA SYMBOLdSIGMAdTAUdUPSILONdPHIdCHIdPSIdOMEGAcNABLAcSMALL ALPHAdBETAdGAMMAdDELTA",
  "1D700dEPSILONdZETAdETAdTHETAdIOTAdKAPPAdLAMDAdMUdNUdXIdOMICRONdPIdRHOdFINAL SIGMAdSIGMAdTAU",
  "1D710dUPSILONdPHIdCHIdPSIdOMEGAcPARTIAL DIFFERENTIALcEPSILON SYMBOLcTHETA SYMBOL",
  "1D718cKAPPA SYMBOLcPHI SYMBOLcRHO SYMBOLcPI SYMBOLbBOLD ITALIC CAPITAL ALPHAeBETAeGAMMA",
  "1D71FeDELTAeEPSILONeZETAeETAeTHETAeIOTAeKAPPAeLAMDAeMUeNUeXIeOMICRONePIeRHOeTHETA SYMBOL",
  "1D72EeSIGMAeTAUeUPSILONePHIeCHIePSIeOMEGAdNABLAdSMALL ALPHAeBETAeGAMMAeDELTAeEPSILONeZETA",
  "1D73CeETAeTHETAeIOTAeKAPPAeLAMDAeMUeNUeXIeOMICRONePIeRHOeFINAL SIGMAeSIGMAeTAUeUPSILONePHI",
  "1D74CeCHIePSIeOMEGAdPARTIAL DIFFERENTIALdEPSILON SYMBOLdTHETA SYMBOLdKAPPA SYMBOLdPHI SYMBOL",
  "1D754dRHO SYMBOLdPI SYMBOLbSANS-SERIF BOLD CAPITAL ALPHAeBETAeGAMMAeDELTAeEPSILONeZETAeETA",
  "1D75DeTHETAeIOTAeKAPPAeLAMDAeMUeNUeXIeOMICRONePIeRHOeTHETA SYMBOLeSIGMAeTAUeUPSILONePHIeCHI",
  "1D76DePSIeOMEGAdNABLAdSMALL ALPHAeBETAeGAMMAeDELTAeEPSILONeZETAeETAeTHETAeIOTAeKAPPAeLAMDA",
  "1D77BeMUeNUeXIeOMICRONePIeRHOeFINAL SIGMAeSIGMAeTAUeUPSILONePHIeCHIePSIeOMEGA",
  "1D789dPARTIAL DIFFERENTIALdEPSILON SYMBOLdTHETA SYMBOLdKAPPA SYMBOLdPHI SYMBOLdRHO SYMBOL",
  "1D78FdPI SYMBOLdITALIC CAPITAL ALPHAfBETAfGAMMAfDELTAfEPSILONfZETAfETAfTHETAfIOTAfKAPPA",
  "1D79AfLAMDAfMUfNUfXIfOMICRONfPIfRHOfTHETA SYMBOLfSIGMAfTAUfUPSILONfPHIfCHIfPSIfOMEGAeNABLA",
  "1D7AAeSMALL ALPHAfBETAfGAMMAfDELTAfEPSILONfZETAfETAfTHETAfIOTAfKAPPAfLAMDAfMUfNUfXIfOMICRON",
  "1D7B9fPIfRHOfFINAL SIGMAfSIGMAfTAUfUPSILONfPHIfCHIfPSIfOMEGAePARTIAL DIFFERENTIAL",
  "1D7C4eEPSILON SYMBOLeTHETA SYMBOLeKAPPA SYMBOLePHI SYMBOLeRHO SYMBOLePI SYMBOL",
  "1D7CAbBOLD CAPITAL DIGAMMAcSMALL DIGAMMA",
  "1D7CEcDIGIT ZEROdONEdTWOdTHREEdFOURdFIVEdSIXdSEVENdEIGHTdNINEbDOUBLE-STRUCK DIGIT ZEROdONE",
  "1D7DAdTWOdTHREEdFOURdFIVEdSIXdSEVENdEIGHTdNINEbSANS-SERIF DIGIT ZEROdONEdTWOdTHREEdFOURdFIVE",
  "1D7E8dSIXdSEVENdEIGHTdNINEcBOLD DIGIT ZEROeONEeTWOeTHREEeFOUReFIVEeSIXeSEVENeEIGHTeNINE",
  "1D7F6bMONOSPACE DIGIT ZEROdONEdTWOdTHREEdFOURdFIVEdSIXdSEVENdEIGHTdNINE",
  "1D800aSIGNWRITING HAND-FIST INDEXbHAND-CIRCLE INDEXbHAND-CUP INDEXbHAND-OVAL INDEX",
  "1D804bHAND-HINGE INDEXbHAND-ANGLE INDEXbHAND-FIST INDEX BENTbHAND-CIRCLE INDEX BENT",
  "1D808bHAND-FIST THUMB UNDER INDEX BENTcINDEX RAISED KNUCKLEdCUPPEDdHINGEDeLOW",
  "1D80DbHAND-CIRCLE INDEX HINGEbHAND-FIST INDEX MIDDLEbHAND-CIRCLE INDEX MIDDLE",
  "1D810bHAND-FIST INDEX MIDDLE BENTeRAISED KNUCKLESeHINGEDdUP MIDDLE HINGEDdHINGED MIDDLE UP",
  "1D815dMIDDLE CONJOINEDfINDEX BENTfMIDDLE BENTfCUPPEDfHINGEDeCROSSED",
  "1D81BbHAND-CIRCLE INDEX MIDDLE CROSSEDbHAND-FIST MIDDLE BENT OVER INDEX",
  "1D81DcINDEX BENT OVER MIDDLEdMIDDLE THUMBbHAND-CIRCLE INDEX MIDDLE THUMB",
  "1D820bHAND-FIST INDEX MIDDLE STRAIGHT THUMB BENTeBENT THUMB STRAIGHTeTHUMB BENT",
  "1D823eHINGED SPREAD THUMB SIDEdUP MIDDLE HINGED THUMB SIDEhCONJOINED",
  "1D826dHINGED MIDDLE UP THUMB SIDEdMIDDLE UP SPREAD THUMB FORWARDeTHUMB CUPPEDfCIRCLEDfHOOKED",
  "1D82BfHINGEDcTHUMB BETWEEN INDEX MIDDLE STRAIGHTcINDEX MIDDLE CONJOINED THUMB SIDEhCONJOINED",
  "1D82FhBENTcMIDDLE THUMB HOOKED INDEX UPcINDEX THUMB HOOKED MIDDLE UP",
  "1D832dMIDDLE CONJOINED HINGED THUMB SIDEeCROSSED THUMB SIDEeCONJOINED THUMB FORWARD",
  "1D835fCUPPED THUMB FORWARDcMIDDLE THUMB CUPPED INDEX UPcINDEX THUMB CUPPED MIDDLE UP",
  "1D838cMIDDLE THUMB CIRCLED INDEX UPgHINGEDcINDEX THUMB ANGLED OUT MIDDLE UPfIN MIDDLE UP",
  "1D83CeCIRCLED MIDDLE UPdMIDDLE THUMB CONJOINED HINGEDfANGLED OUTg",
  "1D840cMIDDLE THUMB ANGLED OUT INDEX UPhCROSSEDfINDEX UPcINDEX THUMB HOOKED MIDDLE HINGED",
  "1D844bHAND-FLAT FOUR FINGERSeBENTeHINGEDeCONJOINEDfSPLITbHAND-CLAW FOUR FINGERS CONJOINED",
  "1D84AbHAND-FIST FOUR FINGERS CONJOINED BENTbHAND-HINGE FOUR FINGERS CONJOINED",
  "1D84CbHAND-FLAT FIVE FINGERS SPREADcHEEL FIVE FINGERS SPREADcFIVE FINGERS SPREAD FOUR BENT",
  "1D84FcHEEL FIVE FINGERS SPREAD FOUR BENTcFIVE FINGERS SPREAD BENT",
  "1D851cHEEL FIVE FINGERS SPREAD BENTcFIVE FINGERS SPREAD THUMB FORWARD",
  "1D853bHAND-CUP FIVE FINGERS SPREADfOPENbHAND-HINGE FIVE FINGERS SPREAD OPEN",
  "1D856bHAND-OVAL FIVE FINGERS SPREADbHAND-FLAT FIVE FINGERS SPREAD HINGEDgTHUMB SIDEgNO THUMB",
  "1D85AccBETWEEN PALM FACINGScHEELcTHUMB SIDEcHEEL THUMB SIDEcTHUMB BENTdFORWARD",
  "1D861cSPLIT INDEX THUMB SIDEdCENTREeTHUMB SIDEgBENTdLITTLEbHAND-CLAWcTHUMB SIDEcNO THUMB",
  "1D869cTHUMB FORWARDbHAND-HOOK CURLICUEcbHAND-CUP OPENccOPEN THUMB SIDEcTHUMB SIDE",
  "1D870cOPEN NO THUMBcNO THUMBcOPEN THUMB FORWARDcTHUMB FORWARDbHAND-CURLICUE OPENc",
  "1D876bHAND-CIRCLEbHAND-OVALcTHUMB SIDEcNO THUMBcTHUMB FORWARDbHAND-HINGE OPENdTHUMB FORWARDc",
  "1D87EcSMALLcOPEN THUMB SIDEcTHUMB SIDEcOPEN NO THUMBcNO THUMBcTHUMB SIDE TOUCHING INDEX",
  "1D884dBETWEEN MIDDLE RINGbHAND-ANGLEbHAND-FIST INDEX MIDDLE RING",
  "1D887bHAND-CIRCLE INDEX MIDDLE RINGbHAND-HINGE INDEX MIDDLE RING",
  "1D889bHAND-ANGLE INDEX MIDDLE RINGbHAND-HINGE LITTLEbHAND-FIST INDEX MIDDLE RING BENT",
  "1D88CfCONJOINEDbHAND-HINGE INDEX MIDDLE RING CONJOINEDbHAND-FIST LITTLE DOWNeRIPPLE STRAIGHT",
  "1D890fCURVEDeOTHERS CIRCLEDdUPcTHUMB UNDER LITTLE UPbHAND-CIRCLE LITTLE UP",
  "1D895bHAND-OVAL LITTLE UPbHAND-ANGLE LITTLE UPbHAND-FIST LITTLE RAISED KNUCKLEdBENT",
  "1D899dTOUCHES THUMBdTHUMBbHAND-HINGE LITTLE THUMBbHAND-FIST LITTLE INDEX THUMB",
  "1D89DbHAND-HINGE LITTLE INDEX THUMBbHAND-ANGLE LITTLE INDEX THUMB INDEX THUMB OUTh",
  "1D8A0bHAND-FIST LITTLE INDEXbHAND-CIRCLE LITTLE INDEXbHAND-HINGE LITTLE INDEX",
  "1D8A3bHAND-ANGLE LITTLE INDEXbHAND-FIST INDEX MIDDLE LITTLEbHAND-CIRCLE INDEX MIDDLE LITTLE",
  "1D8A6bHAND-HINGE INDEX MIDDLE LITTLEcRINGbHAND-ANGLE INDEX MIDDLE LITTLE",
  "1D8A9bHAND-FIST INDEX MIDDLE CROSS LITTLEbHAND-CIRCLE INDEX MIDDLE CROSS LITTLE",
  "1D8ABbHAND-FIST RING DOWNbHAND-HINGE RING DOWN INDEX THUMB HOOK MIDDLE",
  "1D8ADbHAND-ANGLE RING DOWN MIDDLE THUMB INDEX CROSSbHAND-FIST RING UPdRAISED KNUCKLEdLITTLE",
  "1D8B1bHAND-CIRCLE RING LITTLEbHAND-OVAL RING LITTLEbHAND-ANGLE RING LITTLE",
  "1D8B4bHAND-FIST RING MIDDLEeCONJOINEDeRAISED KNUCKLESdINDEXdTHUMBbHAND-HOOK RING THUMB",
  "1D8BAbHAND-FIST INDEX RING LITTLEbHAND-CIRCLE INDEX RING LITTLE",
  "1D8BCbHAND-CURLICUE INDEX RING LITTLE ONbHAND-HOOK INDEX RING LITTLE OUTfINfUNDER",
  "1D8C0bHAND-CUP INDEX RING LITTLEbHAND-HINGE INDEX RING LITTLE",
  "1D8C2bHAND-ANGLE INDEX RING LITTLE OUTfbHAND-FIST MIDDLE DOWNbHAND-HINGE MIDDLE",
  "1D8C6bHAND-FIST MIDDLE UPbHAND-CIRCLE MIDDLE UPbHAND-FIST MIDDLE RAISED KNUCKLE",
  "1D8C9dUP THUMB SIDEbHAND-HOOK MIDDLE THUMBbHAND-FIST MIDDLE THUMB LITTLEdLITTLEdRING LITTLE",
  "1D8CEbHAND-CIRCLE MIDDLE RING LITTLEbHAND-CURLICUE MIDDLE RING LITTLE ON",
  "1D8D0bHAND-CUP MIDDLE RING LITTLEbHAND-HINGE MIDDLE RING LITTLE",
  "1D8D2bHAND-ANGLE MIDDLE RING LITTLE OUTfINfbHAND-CIRCLE MIDDLE RING LITTLE BENT",
  "1D8D6bHAND-CLAW MIDDLE RING LITTLE CONJOINEDgSIDEbHAND-HOOK MIDDLE RING LITTLE CONJOINED OUT",
  "1D8D9gINgbHAND-HINGE INDEX HINGEDbHAND-FIST INDEX THUMB SIDEbHAND-HINGE INDEX THUMB SIDE",
  "1D8DEbHAND-FIST INDEX THUMB SIDE THUMB DIAGONALgCONJOINEDgBENTfINDEX BENTfBOTH BENT",
  "1D8E3fINDEX HINGEeFORWARD INDEX STRAIGHTgBENTeHOOKeCURLICUEeCURVE THUMB INSIDE",
  "1D8E9bHAND-CLAW INDEX THUMB CURVE THUMB INSIDEbHAND-FIST INDEX THUMB CURVE THUMB UNDER",
  "1D8EBeCIRCLEbHAND-CUP INDEX THUMBeOPENbHAND-HINGE INDEX THUMB OPENeLARGEeeSMALL",
  "1D8F2bHAND-ANGLE INDEX THUMB OUTeINebHAND-FIST THUMBdHEELdSIDE DIAGONALeCONJOINEDeBENT",
  "1D8FAdFORWARDdBETWEEN INDEX MIDDLEeMIDDLE RINGeRING LITTLEdUNDER TWO FINGERS",
  "1D8FFdOVER TWO FINGERSdUNDER THREE FINGERSeFOUR FINGERSdOVER FOUR RAISED KNUCKLESccHEEL",
  "1D905bTOUCH SINGLEcMULTIPLEcBETWEENbGRASP SINGLEcMULTIPLEcBETWEENbSTRIKE SINGLEcMULTIPLE",
  "1D90DcBETWEENbBRUSH SINGLEcMULTIPLEcBETWEENbRUB SINGLEcMULTIPLEcBETWEENbSURFACE SYMBOLS",
  "1D915cBETWEENbSQUEEZE LARGE SINGLEcSMALL SINGLEcLARGE MULTIPLEcSMALL MULTIPLEcSEQUENTIAL",
  "1D91BbFLICK LARGE SINGLEcSMALL SINGLEcLARGE MULTIPLEcSMALL MULTIPLEcSEQUENTIAL",
  "1D920bSQUEEZE FLICK ALTERNATINGbMOVEMENT-HINGE UP DOWN LARGEeSMALLdSEQUENTIAL",
  "1D924cDOWN SEQUENTIALcUP DOWN ALTERNATING LARGEfSMALLcSIDE TO SIDE SCISSORS",
  "1D928bMOVEMENT-WALLPLANE FINGER CONTACTbMOVEMENT-FLOORPLANE FINGER CONTACT",
  "1D92AbMOVEMENT-WALLPLANE SINGLE STRAIGHT SMALLeMEDIUMeLARGEeLARGESTdWRIST FLEX",
  "1D92FcDOUBLE STRAIGHTdWRIST FLEXdALTERNATINGeWRIST FLEXcCROSScTRIPLE STRAIGHT MOVEMENT",
  "1D935dWRIST FLEXdALTERNATINGeWRIST FLEXcBEND SMALLdMEDIUMdLARGEcCORNER SMALLdMEDIUMdLARGE",
  "1D93EdROTATIONcCHECK SMALLdMEDIUMdLARGEcBOX SMALLdMEDIUMdLARGEcZIGZAG SMALLdMEDIUMdLARGE",
  "1D948cPEAKS SMALLdMEDIUMdLARGEbTRAVEL-WALLPLANE ROTATION-WALLPLANE SINGLEdDOUBLEdALTERNATING",
  "1D94EcROTATION-FLOORPLANE SINGLEdDOUBLEdALTERNATINGcSHAKINGcARM SPIRAL SINGLEeDOUBLEeTRIPLE",
  "1D955bMOVEMENT-DIAGONAL AWAY SMALLdMEDIUMdLARGEdLARGESTcTOWARDS SMALLdMEDIUMdLARGEdLARGEST",
  "1D95DcBETWEEN AWAY SMALLeMEDIUMeLARGEeLARGESTdTOWARDS SMALLeMEDIUMeLARGEeLARGEST",
  "1D965bMOVEMENT-FLOORPLANE SINGLE STRAIGHT SMALLeMEDIUMeLARGEeLARGESTdWRIST FLEX",
  "1D96AcDOUBLE STRAIGHTdWRIST FLEXdALTERNATINGeWRIST FLEXcCROSScTRIPLE STRAIGHT MOVEMENT",
  "1D970dWRIST FLEXdALTERNATING MOVEMENTeWRIST FLEXcBENDcCORNER SMALLdMEDIUMdLARGEcCHECK",
  "1D978cBOX SMALLdMEDIUMdLARGEcZIGZAG SMALLdMEDIUMdLARGEcPEAKS SMALLdMEDIUMdLARGE",
  "1D981bTRAVEL-FLOORPLANE ROTATION-FLOORPLANE SINGLEdDOUBLEdALTERNATING",
  "1D984cROTATION-WALLPLANE SINGLEdDOUBLEdALTERNATINGcSHAKING",
  "1D988bMOVEMENT-WALLPLANE CURVE QUARTER SMALLeMEDIUMeLARGEeLARGESTdHALF-CIRCLE SMALLeMEDIUM",
  "1D98EeLARGEeLARGESTdTHREE-QUARTER CIRCLE SMALLfMEDIUMcHUMP SMALLdMEDIUMdLARGEcLOOP SMALL",
  "1D996dMEDIUMdLARGEdSMALL DOUBLEcWAVE CURVE DOUBLE SMALLfMEDIUMfLARGEeTRIPLE SMALLfMEDIUM",
  "1D99EfLARGEcCURVE THEN STRAIGHTcCURVED CROSS SMALLeMEDIUMbROTATION-WALLPLANE SINGLEcDOUBLE",
  "1D9A4cALTERNATEbMOVEMENT-WALLPLANE SHAKINGcCURVE HITTING FRONT WALLcHUMP HITTING FRONT WALL",
  "1D9A8cLOOP HITTING FRONT WALLcWAVE HITTING FRONT WALL",
  "1D9AAbROTATION-WALLPLANE SINGLE HITTING FRONT WALLcDOUBLE HITTING FRONT WALL",
  "1D9ACcALTERNATING HITTING FRONT WALLbMOVEMENT-WALLPLANE CURVE HITTING CHEST",
  "1D9AEcHUMP HITTING CHESTcLOOP HITTING CHESTcWAVE HITTING CHEST",
  "1D9B1bROTATION-WALLPLANE SINGLE HITTING CHESTcDOUBLE HITTING CHESTcALTERNATING HITTING CHEST",
  "1D9B4bMOVEMENT-WALLPLANE WAVE DIAGONAL PATH SMALLfMEDIUMfLARGE",
  "1D9B7bMOVEMENT-FLOORPLANE CURVE HITTING CEILING SMALLfLARGE",
  "1D9B9cHUMP HITTING CEILING SMALL DOUBLEfLARGE DOUBLEfSMALL TRIPLEfLARGE TRIPLE",
  "1D9BDcLOOP HITTING CEILING SMALL SINGLEfLARGE SINGLEfSMALL DOUBLEfLARGE DOUBLE",
  "1D9C1cWAVE HITTING CEILING SMALLfLARGEbROTATION-FLOORPLANE SINGLE HITTING CEILING",
  "1D9C4cDOUBLE HITTING CEILINGcALTERNATING HITTING CEILING",
  "1D9C6bMOVEMENT-FLOORPLANE CURVE HITTING FLOOR SMALLfLARGEcHUMP HITTING FLOOR SMALL DOUBLE",
  "1D9C9fLARGE DOUBLEfTRIPLE SMALL TRIPLEgLARGE TRIPLEcLOOP HITTING FLOOR SMALL SINGLE",
  "1D9CDfLARGE SINGLEfSMALL DOUBLEfLARGE DOUBLEcWAVE HITTING FLOOR SMALLfLARGE",
  "1D9D2bROTATION-FLOORPLANE SINGLE HITTING FLOORcDOUBLE HITTING FLOOR",
  "1D9D4cALTERNATING HITTING FLOORbMOVEMENT-FLOORPLANE CURVE SMALLdMEDIUMdLARGEdLARGEST",
  "1D9D9dCOMBINEDcHUMP SMALLcLOOP SMALLcWAVE SNAKEdSMALLdLARGEbROTATION-FLOORPLANE SINGLE",
  "1D9E0cDOUBLEcALTERNATINGbMOVEMENT-FLOORPLANE SHAKING PARALLEL",
  "1D9E3bMOVEMENT-WALLPLANE ARM CIRCLE SMALL SINGLEeMEDIUM SINGLEeSMALL DOUBLEeMEDIUM DOUBLE",
  "1D9E7bMOVEMENT-FLOORPLANE ARM CIRCLE HITTING WALL SMALL SINGLEgMEDIUM SINGLEgLARGE SINGLE",
  "1D9EAgSMALL DOUBLEgMEDIUM DOUBLEgLARGE DOUBLEbMOVEMENT-WALLPLANE WRIST CIRCLE FRONT SINGLE",
  "1D9EEfDOUBLEbMOVEMENT-FLOORPLANE WRIST CIRCLE HITTING WALL SINGLEgDOUBLE",
  "1D9F1bMOVEMENT-WALLPLANE FINGER CIRCLES SINGLEeDOUBLE",
  "1D9F3bMOVEMENT-FLOORPLANE FINGER CIRCLES HITTING WALL SINGLEgDOUBLEbDYNAMIC ARROWHEAD SMALL",
  "1D9F6dLARGEcFASTcSLOWcTENSEcRELAXEDcSIMULTANEOUSdALTERNATINGcEVERY OTHER TIMEcGRADUALbHEAD",
  "1DA00cRIMcMOVEMENT-WALLPLANE STRAIGHTdTILTcMOVEMENT-FLOORPLANE STRAIGHT",
  "1DA04cMOVEMENT-WALLPLANE CURVEcMOVEMENT-FLOORPLANE CURVEcMOVEMENT CIRCLE",
  "1DA07bFACE DIRECTION POSITION NOSE FORWARD TILTINGfUP OR DOWNiTILTINGbEYEBROWS STRAIGHT UP",
  "1DA0BdNEUTRALdDOWNbDREAMY EYEBROWS NEUTRAL DOWNdDOWN NEUTRALdUP NEUTRALdNEUTRAL UP",
  "1DA11bFOREHEAD NEUTRALcCONTACTcWRINKLEDbEYES OPENcSQUEEZEDcCLOSEDbEYE BLINK SINGLEdMULTIPLE",
  "1DA19bEYES HALF OPENcWIDE OPENcHALF CLOSEDcWIDENING MOVEMENTbEYE WINKbEYELASHES UPcDOWN",
  "1DA20cFLUTTERINGbEYEGAZE-WALLPLANE STRAIGHTdDOUBLEdALTERNATINGbEYEGAZE-FLOORPLANE STRAIGHT",
  "1DA25dDOUBLEdALTERNATINGbEYEGAZE-WALLPLANE CURVEDbEYEGAZE-FLOORPLANE CURVED",
  "1DA29bEYEGAZE-WALLPLANE CIRCLINGbCHEEKS PUFFEDcNEUTRALcSUCKEDbTENSE CHEEKS HIGHdMIDDLEdLOW",
  "1DA30bEARSbNOSE NEUTRALcCONTACTcWRINKLEScWIGGLESbAIR BLOWING OUTcSUCKING IN",
  "1DA37cBLOW SMALL ROTATIONScSUCK SMALL ROTATIONSbBREATH INHALEcEXHALEbMOUTH CLOSED NEUTRAL",
  "1DA3CdFORWARDdCONTACTcSMILEdWRINKLEDdOPENcFROWNdWRINKLEDdOPENcOPEN CIRCLEdFORWARDdWRINKLED",
  "1DA47dOVALeWRINKLEDeYAWNdRECTANGLEeWRINKLEDeYAWNcKISSdFORWARDdWRINKLEDcTENSEdFORWARDdSUCKED",
  "1DA53bLIPS PRESSED TOGETHERbLIP LOWER OVER UPPERcUPPER OVER LOWERbMOUTH CORNERS",
  "1DA57cWRINKLES SINGLEdDOUBLEbTONGUE STICKING OUT FARcLICKING LIPScTIP BETWEEN LIPS",
  "1DA5CdTOUCHING INSIDE MOUTHcINSIDE MOUTH RELAXEDcMOVES AGAINST CHEEKcCENTRE STICKING OUT",
  "1DA60dINSIDE MOUTHbTEETHcMOVEMENTcON TONGUEeMOVEMENTdLIPSeMOVEMENTcBITE LIPS",
  "1DA68bMOVEMENT-WALLPLANE JAWbMOVEMENT-FLOORPLANE JAWbNECKbHAIRbEXCITEMENTbSHOULDER HIP SPINE",
  "1DA6EdPOSITIONSbWALLPLANE SHOULDER HIP MOVEbFLOORPLANE SHOULDER HIP MOVE",
  "1DA71bSHOULDER TILTING FROM WAISTbTORSO-WALLPLANE STRAIGHT STRETCHcCURVED BEND",
  "1DA74bTORSO-FLOORPLANE TWISTINGbUPPER BODY TILTING FROM HIP JOINTSbLIMB COMBINATIONcLENGTH-1",
  "1DA78cLENGTH-2cLENGTH-3cLENGTH-4cLENGTH-5cLENGTH-6cLENGTH-7bFINGERbLOCATION-WALLPLANE SPACE",
  "1DA80bLOCATION-FLOORPLANE SPACEbLOCATION HEIGHTcWIDTHcDEPTHcHEAD NECKcTORSOcLIMBS DIGITS",
  "1DA87bCOMMAbFULL STOPbSEMICOLONbCOLONbPARENTHESIS",
  "1DA9BbFILL MODIFIER-2cMODIFIER-3cMODIFIER-4cMODIFIER-5cMODIFIER-6",
  "1DAA1bROTATION MODIFIER-2cMODIFIER-3cMODIFIER-4cMODIFIER-5cMODIFIER-6cMODIFIER-7cMODIFIER-8",
  "1DAA8cMODIFIER-9cMODIFIER-10cMODIFIER-11cMODIFIER-12cMODIFIER-13cMODIFIER-14cMODIFIER-15",
  "1DAAFcMODIFIER-16",
  "1DF00aLATIN SMALL LETTER FENG DIGRAPH WITH TRILLdREVERSED SCRIPT G",
  "1DF02bLETTER SMALL CAPITAL TURNED GbSMALL LETTER REVERSED KbLETTER SMALL CAPITAL L WITH BELT",
  "1DF05bSMALL LETTER LEZH WITH RETROFLEX HOOKdTURNED Y WITH BELTdREVERSED ENG",
  "1DF08dTURNED R WITH LONG LEG AND RETROFLEX HOOKdT WITH HOOK AND RETROFLEX HOOK",
  "1DF0AbLETTER RETROFLEX CLICK WITH RETROFLEX HOOKbSMALL LETTER ESH WITH DOUBLE BARhAND CURL",
  "1DF0DdTURNED T WITH CURLbLETTER INVERTED GLOTTAL STOP WITH CURLcSTRETCHED C WITH CURL",
  "1DF10cSMALL CAPITAL TURNED KbSMALL LETTER L WITH FISHHOOKdDEZH DIGRAPH WITH PALATAL HOOK",
  "1DF13dL WITH BELT AND PALATAL HOOKdENG WITH PALATAL HOOKdTURNED R WITH PALATAL HOOK",
  "1DF16dR WITH FISHHOOK AND PALATAL HOOKdTESH DIGRAPH WITH PALATAL HOOKdEZH WITH PALATAL HOOK",
  "1DF19dDEZH DIGRAPH WITH RETROFLEX HOOKdI WITH STROKE AND RETROFLEX HOOK",
  "1DF1BdO WITH RETROFLEX HOOKdTESH DIGRAPH WITH RETROFLEX HOOKdC WITH RETROFLEX HOOK",
  "1DF1EdS WITH CURL",
  "1E000aCOMBINING GLAGOLITIC LETTER AZUdBUKYdVEDEdGLAGOLIdDOBROdYESTUdZHIVETE",
  "1E008dZEMLJAdIZHEdINITIAL IZHEdIdDJERVIdKAKOdLJUDIJEdMYSLITEdNASHIdONUdPOKOJIdRITSIdSLOVO",
  "1E015dTVRIDOdUKUdFRITUdHERU",
  "1E01BdSHTAdTSIdCHRIVIdSHAdYERUdYERIdYATI",
  "1E023dYUdSMALL YUS",
  "1E026dYOdIOTATED SMALL YUSdBIG YUSdIOTATED BIG YUSdFITA",
  "1E100aNYIAKENG PUACHUE HMONG LETTER MAeTSAeNTAeTAeHAeNAeXAeNKAeCAeLAeSAeZAeNCAeNTSAeKAeDA",
  "1E110eNYAeNRAeVAeNTXAeTXAeFAeRAeQAeYAeNQAePAeXYAeNPAeDLAeNPLAeHAHeMLAePLAeGAeRRAeAeAAeIeUeO",
  "1E129eOOeEeEEeW",
  "1E130dTONE-BdTONE-MdTONE-JdTONE-VdTONE-SdTONE-GdTONE-DdSIGN FOR PERSONfTHINGfLOCATIONfANIMAL",
  "1E13BfINVERTEBRATEeXW XWdSYLLABLE LENGTHENER",
  "1E140dDIGIT ZEROeONEeTWOeTHREEeFOUReFIVEeSIXeSEVENeEIGHTeNINE",
  "1E14EdLOGOGRAM NYAJdCIRCLED CA",
  "1E290aTOTO LETTER PAcBAcTAcDAcKAcGAcMAcNAcNGAcSAcCHAcYAcWAcJAcHAcRAcLAcIcBREATHY IcIU",
  "1E2A4cBREATHY IUcUcEcBREATHY EcEOcBREATHY EOcOcAEcBREATHY AEcAbSIGN RISING TONE",
  "1E2C0aWANCHO LETTER AAcAcBAcCAcDAcGAcYAcPHAcLAcNAcPAcTAcTHAcFAcSAcSHAcJAcZAcWAcVAcKAcOcAUcRA",
  "1E2D8cMAcKHAcHAcEcIcNGAcUcLLHAcTSAcTRAcONGcAANGcANGcINGcONcENcAANcNYAcUENcYIHbTONE TUPcTUPNI",
  "1E2EEcKOIcKOINIbDIGIT ZEROcONEcTWOcTHREEcFOURcFIVEcSIXcSEVENcEIGHTcNINE",
  "1E2FFbNGUN SIGN",
  "1E7E0aETHIOPIC SYLLABLE HHYAcHHYUcHHYIcHHYAAcHHYEEcHHYEcHHYO",
  "1E7E8cGURAGE HHWAcHHWIcHHWEEcHHWE",
  "1E7EDcGURAGE MWIdMWEE",
  "1E7F0dQWIdQWEEdQWEdBWIdBWEEdKWIdKWEEdKWEdGWIdGWEEdGWEdFWIdFWEEdPWIdPWEE",
  "1E800aMENDE KIKAKUI SYLLABLE M001 KIdM002 KAdM003 KUdM065 KEEdM095 KEdM076 KOOdM048 KO",
  "1E807dM179 KUAdM004 WIdM005 WAdM006 WUdM126 WEEdM118 WEdM114 WOOdM045 WOdM194 WUIdM143 WEI",
  "1E811dM061 WVIdM049 WVAdM139 WVEdM007 MINdM008 MANdM009 MUNdM059 MENdM094 MONdM154 MUAN",
  "1E81AdM189 MUENdM010 BIdM011 BAdM012 BUdM150 BEEdM097 BEdM103 BOOdM138 BOdM013 IdM014 A",
  "1E824dM015 UdM163 EEdM100 EdM165 OOdM147 OdM137 EIdM131 INdM135 INdM195 ANdM178 ENdM019 SI",
  "1E82FdM020 SAdM021 SUdM162 SEEdM116 SEdM136 SOOdM079 SOdM196 SIAdM025 LIdM026 LAdM027 LU",
  "1E839dM084 LEEdM073 LEdM054 LOOdM153 LOdM110 LONG LEdM016 DIdM017 DAdM018 DUdM089 DEE",
  "1E842dM180 DOOdM181 DOdM022 TIdM023 TAdM024 TUdM091 TEEdM055 TEdM104 TOOdM069 TOdM028 JI",
  "1E84CdM029 JAdM030 JUdM157 JEEdM113 JEdM160 JOOdM063 JOdM175 LONG JOdM031 YIdM032 YAdM033 YU",
  "1E856dM109 YEEdM080 YEdM141 YOOdM121 YOdM034 FIdM035 FAdM036 FUdM078 FEEdM075 FEdM133 FOO",
  "1E860dM088 FOdM197 FUAdM101 FANdM037 NINdM038 NANdM039 NUNdM117 NENdM169 NONdM176 HIdM041 HA",
  "1E86AdM186 HUdM040 HEEdM096 HEdM042 HOOdM140 HOdM083 HEEIdM128 HOOUdM053 HINdM130 HAN",
  "1E873dM087 HUNdM052 HENdM193 HONdM046 HUANdM090 NGGIdM043 NGGAdM082 NGGUdM115 NGGEE",
  "1E87BdM146 NGGEdM156 NGGOOdM120 NGGOdM159 NGGAAdM127 NGGUAdM086 LONG NGGEdM106 LONG NGGOO",
  "1E882dM183 LONG NGGOdM155 GIdM111 GAdM168 GUdM190 GEEdM166 GUEIdM167 GUANdM184 NGEN",
  "1E88AdM057 NGONdM177 NGUANdM068 PIdM099 PAdM050 PUdM081 PEEdM051 PEdM102 POOdM066 PO",
  "1E893dM145 MBIdM062 MBAdM122 MBUdM047 MBEEdM188 MBEEdM072 MBEdM172 MBOOdM174 MBOdM187 MBUU",
  "1E89CdM161 LONG MBEdM105 LONG MBOOdM142 LONG MBOdM132 KPIdM092 KPAdM074 KPUdM044 KPEE",
  "1E8A3dM108 KPEdM112 KPOOdM158 KPOdM124 GBIdM056 GBAdM148 GBUdM093 GBEEdM107 GBEdM071 GBOO",
  "1E8ACdM070 GBOdM171 RAdM123 NDIdM129 NDAdM125 NDUdM191 NDEEdM119 NDEdM067 NDOOdM064 NDO",
  "1E8B5dM152 NJAdM192 NJUdM149 NJEEdM134 NJOOdM182 VIdM185 VAdM151 VUdM173 VEEdM085 VE",
  "1E8BEdM144 VOOdM077 VOdM164 NYINdM058 NYANdM170 NYUNdM098 NYENdM060 NYON",
  "1E8C7cDIGIT ONEdTWOdTHREEdFOURdFIVEdSIXdSEVENdEIGHTdNINEcCOMBINING NUMBER TEENSeTENS",
  "1E8D2eHUNDREDSeTHOUSANDSeTEN THOUSANDSeHUNDRED THOUSANDSeMILLIONS",
  "1E900aADLAM CAPITAL LETTER ALIFdDAALIdLAAMdMIIMdBAdSINNYIIYHEdPEdBHEdRAdEdFAdIdOdDHAdYHEdWAW",
  "1E910dNUNdKAFdYAdUdJIIMdCHIdHAdQAAFdGAdNYAdTUdNHAdVAdKHAdGBEdZALdKPOdSHAbSMALL LETTER ALIF",
  "1E923dDAALIdLAAMdMIIMdBAdSINNYIIYHEdPEdBHEdRAdEdFAdIdOdDHAdYHEdWAWdNUNdKAFdYAdUdJIIMdCHIdHA",
  "1E939dQAAFdGAdNYAdTUdNHAdVAdKHAdGBEdZALdKPOdSHAbALIF LENGTHENERbVOWEL LENGTHENER",
  "1E946bGEMINATION MARKbHAMZAbCONSONANT MODIFIERbGEMINATE CONSONANT MODIFIERbNUKTA",
  "1E94BbNASALIZATION MARK",
  "1E950bDIGIT ZEROcONEcTWOcTHREEcFOURcFIVEcSIXcSEVENcEIGHTcNINE",
  "1E95EbINITIAL EXCLAMATION MARKcQUESTION MARK",
  "1EC71aINDIC SIYAQ NUMBER ONEdTWOdTHREEdFOURdFIVEdSIXdSEVENdEIGHTdNINEdTENdTWENTYdTHIRTY",
  "1EC7DdFORTYdFIFTYdSIXTYdSEVENTYdEIGHTYdNINETYdONE HUNDREDdTWO HUNDREDdTHREE HUNDRED",
  "1EC86dFOUR HUNDREDdFIVE HUNDREDdSIX HUNDREDdSEVEN HUNDREDdEIGHT HUNDREDdNINE HUNDRED",
  "1EC8CdONE THOUSANDdTWO THOUSANDdTHREE THOUSANDdFOUR THOUSANDdFIVE THOUSANDdSIX THOUSAND",
  "1EC92dSEVEN THOUSANDdEIGHT THOUSANDdNINE THOUSANDdTEN THOUSANDdTWENTY THOUSAND",
  "1EC97dTHIRTY THOUSANDdFORTY THOUSANDdFIFTY THOUSANDdSIXTY THOUSANDdSEVENTY THOUSAND",
  "1EC9CdEIGHTY THOUSANDdNINETY THOUSANDdLAKHdLAKHANcLAKH MARKcNUMBER KARORdKARORAN",
  "1ECA3dPREFIXED ONEeTWOeTHREEeFOUReFIVEeSIXeSEVENeEIGHTeNINEcPLACEHOLDERcFRACTION ONE QUARTER",
  "1ECAEeHALFdTHREE QUARTERScRUPEE MARKcNUMBER ALTERNATE ONEeTWOeTEN THOUSAND",
  "1ECB4cALTERNATE LAKH MARK",
  "1ED01aOTTOMAN SIYAQ NUMBER ONEdTWOdTHREEdFOURdFIVEdSIXdSEVENdEIGHTdNINEdTENdTWENTYdTHIRTY",
  "1ED0DdFORTYdFIFTYdSIXTYdSEVENTYdEIGHTYdNINETYdONE HUNDREDdTWO HUNDREDdTHREE HUNDRED",
  "1ED16dFOUR HUNDREDdFIVE HUNDREDdSIX HUNDREDdSEVEN HUNDREDdEIGHT HUNDREDdNINE HUNDRED",
  "1ED1CdONE THOUSANDdTWO THOUSANDdTHREE THOUSANDdFOUR THOUSANDdFIVE THOUSANDdSIX THOUSAND",
  "1ED22dSEVEN THOUSANDdEIGHT THOUSANDdNINE THOUSANDdTEN THOUSANDdTWENTY THOUSAND",
  "1ED27dTHIRTY THOUSANDdFORTY THOUSANDdFIFTY THOUSANDdSIXTY THOUSANDdSEVENTY THOUSAND",
  "1ED2CdEIGHTY THOUSANDdNINETY THOUSANDcMARRATANcALTERNATE NUMBER TWOeTHREEeFOUReFIVEeSIX",
  "1ED34eSEVENeEIGHTeNINEeTENeFOUR HUNDREDeSIX HUNDREDeTWO THOUSANDeTEN THOUSAND",
  "1ED3CcFRACTION ONE HALFeSIXTH",
  "1EE00aARABIC MATHEMATICAL ALEFcBEHcJEEMcDAL",
  "1EE05cWAWcZAINcHAHcTAHcYEHcKAFcLAMcMEEMcNOONcSEENcAINcFEHcSADcQAFcREHcSHEENcTEHcTHEHcKHAH",
  "1EE18cTHALcDADcZAHcGHAINcDOTLESS BEHdNOONdFEHdQAF",
  "1EE21cINITIAL BEHdJEEM",
  "1EE24dHEH",
  "1EE27dHAH",
  "1EE29dYEHdKAFdLAMdMEEMdNOONdSEENdAINdFEHdSADdQAF",
  "1EE34dSHEENdTEHdTHEHdKHAH",
  "1EE39dDAD",
  "1EE3BdGHAIN",
  "1EE42cTAILED JEEM",
  "1EE47dHAH",
  "1EE49dYEH",
  "1EE4BdLAM",
  "1EE4DdNOONdSEENdAIN",
  "1EE51dSADdQAF",
  "1EE54dSHEEN",
  "1EE57dKHAH",
  "1EE59dDAD",
  "1EE5BdGHAIN",
  "1EE5DdDOTLESS NOON",
  "1EE5FeQAF",
  "1EE61cSTRETCHED BEHdJEEM",
  "1EE64dHEH",
  "1EE67dHAHdTAHdYEHdKAF",
  "1EE6CdMEEMdNOONdSEENdAINdFEHdSADdQAF",
  "1EE74dSHEENdTEHdTHEHdKHAH",
  "1EE79dDADdZAHdGHAINdDOTLESS BEH",
  "1EE7EeFEH",
  "1EE80cLOOPED ALEFdBEHdJEEMdDALdHEHdWAWdZAINdHAHdTAHdYEH",
  "1EE8BdLAMdMEEMdNOONdSEENdAINdFEHdSADdQAFdREHdSHEENdTEHdTHEHdKHAHdTHALdDADdZAHdGHAIN",
  "1EEA1cDOUBLE-STRUCK BEHdJEEMdDAL",
  "1EEA5dWAWdZAINdHAHdTAHdYEH",
  "1EEABdLAMdMEEMdNOONdSEENdAINdFEHdSADdQAFdREHdSHEENdTEHdTHEHdKHAHdTHALdDADdZAHdGHAIN",
  "1EEF0cOPERATOR MEEM WITH HAH WITH TATWEELdHAH WITH DAL"]

end Stencil.CodePoint.Name
