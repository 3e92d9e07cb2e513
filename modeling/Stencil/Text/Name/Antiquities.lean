/-!
# Names of ancient scripts

The names of the code points from 10000 to 1AFFF: the scripts of antiquity, from Linear B to Tangut.
The rows are read by the lookup of names.

## Main definitions

* `CodePoint.Name.antiquities` — the rows.
-/

namespace Stencil.CodePoint.Name

/-- The names of the code points from 10000 to 1AFFF. -/
def antiquities : List String :=
  ["10000aLINEAR B SYLLABLE B008 AdB038 EdB028 IdB061 OdB010 UdB001 DAdB045 DEdB007 DIdB014 DO",
  "10009dB051 DUdB057 JAdB046 JE",
  "1000DdB036 JOdB065 JUdB077 KAdB044 KEdB067 KIdB070 KOdB081 KUdB080 MAdB013 MEdB073 MI",
  "10017dB015 MOdB023 MUdB006 NAdB024 NEdB030 NIdB052 NOdB055 NUdB003 PAdB072 PEdB039 PI",
  "10021dB011 POdB050 PUdB016 QAdB078 QEdB021 QIdB032 QO",
  "10028dB060 RAdB027 REdB053 RIdB002 ROdB026 RUdB031 SAdB009 SEdB041 SIdB012 SOdB058 SU",
  "10032dB059 TAdB004 TEdB037 TIdB005 TOdB069 TUdB054 WAdB075 WEdB040 WIdB042 WO",
  "1003CdB017 ZAdB074 ZE",
  "1003FdB020 ZOdB025 A2dB043 A3dB085 AUdB071 DWEdB090 DWOdB048 NWAdB029 PU2dB062 PTEdB076 RA2",
  "10049dB033 RA3dB068 RO2dB066 TA2dB087 TWEdB091 TWO",
  "10050cSYMBOL B018dB019dB022dB034dB047dB049dB056dB063dB064dB079dB082dB083dB086dB089",
  "10080cIDEOGRAM B100 MANdB102 WOMANdB104 DEERdB105 EQUIDdB105F MAREdB105M STALLIONdB106F EWE",
  "10087dB106M RAMdB107F SHE-GOATdB107M HE-GOATdB108F SOWdB108M BOARdB109F COWdB109M BULL",
  "1008EdB120 WHEATdB121 BARLEYdB122 OLIVEdB123 SPICEdB125 CYPERUScMONOGRAM B127 KAPO",
  "10094dB128 KANAKOcIDEOGRAM B130 OILdB131 WINEdB132cMONOGRAM B133 AREPAdB135 MERI",
  "1009AcIDEOGRAM B140 BRONZEdB141 GOLDdB142dB145 WOOLdB146dB150dB151 HORNdB152dB153dB154",
  "100A4cMONOGRAM B156 TURO2cIDEOGRAM B157dB158dB159 CLOTHdB160dB161dB162 GARMENTdB163 ARMOUR",
  "100ACdB164dB165dB166dB167dB168dB169dB170dB171dB172dB173 MONTHdB174dB176 TREEdB177dB178dB179",
  "100BBdB180dB181dB182dB183dB184dB185dB189dB190dB191 HELMETdB220 FOOTSTOOLdB225 BATHTUB",
  "100C6dB230 SPEARdB231 ARROWdB232dB233 SWORDdB234dB236dB240 WHEELED CHARIOTdB241 CHARIOT",
  "100CEdB242 CHARIOT FRAMEdB243 WHEELdB245dB246cMONOGRAM B247 DIPTEcIDEOGRAM B248dB249dB251",
  "100D6dB252dB253dB254 DARTdB255dB256dB257dB258dB259dVESSEL B155eB200eB201eB202eB203eB204eB205",
  "100E5eB206eB207eB208eB209eB210eB211eB212eB213eB214eB215eB216eB217eB218eB219eB221eB222eB226",
  "100F6eB227eB228eB229eB250eB305",
  "10100aAEGEAN WORD SEPARATOR LINEdDOTbCHECK MARK",
  "10107bNUMBER ONEcTWOcTHREEcFOURcFIVEcSIXcSEVENcEIGHTcNINEcTENcTWENTYcTHIRTYcFORTYcFIFTY",
  "10115cSIXTYcSEVENTYcEIGHTYcNINETYcONE HUNDREDcTWO HUNDREDcTHREE HUNDREDcFOUR HUNDRED",
  "1011DcFIVE HUNDREDcSIX HUNDREDcSEVEN HUNDREDcEIGHT HUNDREDcNINE HUNDREDcONE THOUSAND",
  "10123cTWO THOUSANDcTHREE THOUSANDcFOUR THOUSANDcFIVE THOUSANDcSIX THOUSANDcSEVEN THOUSAND",
  "10129cEIGHT THOUSANDcNINE THOUSANDcTEN THOUSANDcTWENTY THOUSANDcTHIRTY THOUSAND",
  "1012EcFORTY THOUSANDcFIFTY THOUSANDcSIXTY THOUSANDcSEVENTY THOUSANDcEIGHTY THOUSAND",
  "10133cNINETY THOUSAND",
  "10137bWEIGHT BASE UNITcFIRST SUBUNITcSECOND SUBUNITcTHIRD SUBUNITcFOURTH SUBUNIT",
  "1013CbDRY MEASURE FIRST SUBUNITbLIQUID MEASURE FIRST SUBUNITbMEASURE SECOND SUBUNIT",
  "1013FcTHIRD SUBUNITaGREEK ACROPHONIC ATTIC ONE QUARTEReHALFeDRACHMAdFIVEdFIFTYdFIVE HUNDRED",
  "10146eTHOUSANDdFIFTY THOUSANDdFIVE TALENTSdTEN TALENTSdFIFTY TALENTSdONE HUNDRED TALENTS",
  "1014CdFIVE HUNDRED TALENTSdONE THOUSAND TALENTSdFIVE THOUSAND TALENTSeSTATERSdTEN STATERS",
  "10151dFIFTY STATERSdONE HUNDRED STATERSdFIVE HUNDRED STATERSdONE THOUSAND STATERS",
  "10155dTEN THOUSAND STATERSdFIFTY THOUSAND STATERSdTEN MNAScHERAEUM ONE PLETHRONcTHESPIAN ONE",
  "1015AcHERMIONIAN ONEcEPIDAUREAN TWOcTHESPIAN TWOcCYRENAIC TWO DRACHMAS",
  "1015EcEPIDAUREAN TWO DRACHMAScTROEZENIAN FIVEdTENeALTERNATE FORMcHERMIONIAN TEN",
  "10163cMESSENIAN TENcTHESPIAN TENdTHIRTYcTROEZENIAN FIFTYeALTERNATE FORMcHERMIONIAN FIFTY",
  "10169cTHESPIAN FIFTYdONE HUNDREDdTHREE HUNDREDcEPIDAUREAN FIVE HUNDRED",
  "1016DcTROEZENIAN FIVE HUNDREDcTHESPIAN FIVE HUNDREDcCARYSTIAN FIVE HUNDRED",
  "10170cNAXIAN FIVE HUNDREDcTHESPIAN ONE THOUSANDdFIVE THOUSANDcDELPHIC FIVE MNAS",
  "10174cSTRATIAN FIFTY MNASbONE HALF SIGNeALTERNATE FORMbTWO THIRDS SIGNbTHREE QUARTERS SIGN",
  "10179bYEAR SIGNbTALENT SIGNbDRACHMA SIGNbOBOL SIGNbTWO OBOLS SIGNbTHREE OBOLS SIGN",
  "1017FbFOUR OBOLS SIGNbFIVE OBOLS SIGNbMETRETES SIGNbKYATHOS BASE SIGNbLITRA SIGNbOUNKIA SIGN",
  "10185bXESTES SIGNbARTABE SIGNbAROURA SIGNbGRAMMA SIGNbTRYBLION BASE SIGNbZERO SIGN",
  "1018BbONE QUARTER SIGNbSINUSOID SIGNbINDICTION SIGNaNOMISMA SIGN",
  "10190aROMAN SEXTANS SIGNbUNCIA SIGNbSEMUNCIA SIGNbSEXTULA SIGNbDIMIDIA SEXTULA SIGN",
  "10195bSILIQUA SIGNbDENARIUS SIGNbQUINARIUS SIGNbSESTERTIUS SIGNbDUPONDIUS SIGNbAS SIGN",
  "1019BbCENTURIAL SIGNaASCIA SYMBOL",
  "101A0aGREEK SYMBOL TAU RHO",
  "101D0aPHAISTOS DISC SIGN PEDESTRIANdPLUMED HEADdTATTOOED HEADdCAPTIVEdCHILDdWOMANdHELMET",
  "101D7dGAUNTLETdTIARAdARROWdBOWdSHIELDdCLUBdMANACLESdMATTOCKdSAWdLIDdBOOMERANG",
  "101E2dCARPENTRY PLANEdDOLIUMdCOMBdSLINGdCOLUMNdBEEHIVEdSHIPdHORNdHIDEdBULLS LEGdCATdRAM",
  "101EEdEAGLEdDOVEdTUNNYdBEEdPLANE TREEdVINEdPAPYRUSdROSETTEdLILYdOX BACKdFLUTEdGRATER",
  "101FAdSTRAINERdSMALL AXEdWAVY BANDdCOMBINING OBLIQUE STROKE",
  "10280aLYCIAN LETTER AcEcBcBHcGcDcIcWcZcTHcJcKcQcLcMcNcMMcNNcUcPcKKcRcScTcTTcANcENcHcX",
  "102A0aCARIAN LETTER AcP2cDcLcUUUcRcLDcA2cQcBcMcOcD2cTcSHcSH2cScC-18cUcNNcXcNcTT2cPcSScIcE",
  "102BBcUUUUcKcK2cNDcUUcGcG2cSTcST2cNGcIIcC-39cTTcUUU2cRRcMBcMB2cMB3cMB4cLD2cE2cUUU3",
  "102E0aCOPTIC EPACT THOUSANDS MARKcDIGIT ONEdTWOdTHREEdFOURdFIVEdSIXdSEVENdEIGHTdNINE",
  "102EAcNUMBER TENdTWENTYdTHIRTYdFORTYdFIFTYdSIXTYdSEVENTYdEIGHTYdNINETYdONE HUNDRED",
  "102F4dTWO HUNDREDdTHREE HUNDREDdFOUR HUNDREDdFIVE HUNDREDdSIX HUNDREDdSEVEN HUNDRED",
  "102FAdEIGHT HUNDREDdNINE HUNDRED",
  "10300aOLD ITALIC LETTER AdBEdKEdDEdEdVEdZEdHEdTHEdIdKAdELdEMdENdESHdOdPEdSHEdKUdERdESdTEdU",
  "10317dEKSdPHEdKHEdEFdERSdCHEdIIdUUdESScNUMERAL ONEdFIVEdTENdFIFTY",
  "1032DcLETTER YEdNORTHERN TSEdSOUTHERN TSEaGOTHIC LETTER AHSAcBAIRKANcGIBAcDAGScAIHVUS",
  "10335cQAIRTHRAcIUJAcHAGLcTHIUTHcEIScKUSMAcLAGUScMANNAcNAUTHScJERcURUScPAIRTHRAcNINETYcRAIDA",
  "10343cSAUILcTEIWScWINJAcFAIHUcIGGWScHWAIRcOTHALcNINE HUNDRED",
  "10350aOLD PERMIC LETTER ANdBURdGAIdDOIdEdZHOIdDZHOIdZATAdDZITAdIdKOKEdLEIdMENOEdNENOEdVOOI",
  "1035FdPEEIdREIdSIIdTAIdUdCHERYdSHOOIdSHCHOOIdYRYdYERUdOdOOdEFdHAdTSIUdVERdYERdYERIdYATdIEdYU",
  "10374dYAdIAaCOMBINING OLD PERMIC LETTER ANeDOIeZATAeNENOEeSII",
  "10380aUGARITIC LETTER ALPAcBETAcGAMLAcKHAcDELTAcHOcWOcZETAcHOTAcTETcYODcKAFcSHINcLAMDAcMEM",
  "1038FcDHALcNUNcZUcSAMKAcAINcPUcSADEcQOPAcRASHAcTHANNAcGHAINcTOcIcUcSSU",
  "1039FbWORD DIVIDERaOLD PERSIAN SIGN AdIdUdKAdKUdGAdGUdXAdCAdJAdJIdTAdTUdDAdDIdDUdTHAdPAdBA",
  "103B3dFAdNAdNUdMAdMIdMUdYAdVAdVIdRAdRUdLAdSAdZAdSHAdSSAdHA",
  "103C8dAURAMAZDAAdAURAMAZDAA-2dAURAMAZDAAHAdXSHAAYATHIYAdDAHYAAUSHdDAHYAAUSH-2dBAGAdBUUMISH",
  "103D0cWORD DIVIDERcNUMBER ONEdTWOdTENdTWENTYdHUNDRED",
  "10400aDESERET CAPITAL LETTER LONG IeEeAeAHeOeOOdSHORT IeEeAeAHeOeOOdAYdOWdWUdYEEdHdPEEdBEE",
  "10413dTEEdDEEdCHEEdJEEdKAYdGAYdEFdVEEdETHdTHEEdESdZEEdESHdZHEEdERdELdEMdENdENGdOIdEW",
  "10428bSMALL LETTER LONG IeEeAeAHeOeOOdSHORT IeEeAeAHeOeOOdAYdOWdWUdYEEdHdPEEdBEEdTEEdDEE",
  "1043DdCHEEdJEEdKAYdGAYdEFdVEEdETHdTHEEdESdZEEdESHdZHEEdERdELdEMdENdENGdOIdEW",
  "10450aSHAVIAN LETTER PEEPcTOTcKICKcFEEcTHIGHcSOcSUREcCHURCHcYEAcHUNGcBIBcDEADcGAGcVOWcTHEY",
  "1045FcZOOcMEASUREcJUDGEcWOEcHA-HAcLOLLcMIMEcIFcEGGcASHcADOcONcWOOLcOUTcAHcROARcNUNcEATcAGE",
  "10472cICEcUPcOAKcOOZEcOILcAWEcAREcORcAIRcERRcARRAYcEARcIANcYEWaOSMANYA LETTER ALEFcBAcTAcJA",
  "10484cXAcKHAcDEELcRAcSAcSHIINcDHAcCAYNcGAcFAcQAAFcKAAFcLAANcMIINcNUUNcWAWcHAcYAcAcEcIcOcUcAA",
  "1049CcEEcOO",
  "104A0bDIGIT ZEROcONEcTWOcTHREEcFOURcFIVEcSIXcSEVENcEIGHTcNINE",
  "104B0aOSAGE CAPITAL LETTER AdAIdAINdAHdBRAdCHAdEHCHAdEdEINdHAdHYAdIdKAdEHKAdKYAdLAdMAdNAdO",
  "104C3dOINdPAdEHPAdSAdSHAdTAdEHTAdTSAdEHTSAdTSHAdDHAdUdWAdKHAdGHAdZAdZHA",
  "104D8bSMALL LETTER AdAIdAINdAHdBRAdCHAdEHCHAdEdEINdHAdHYAdIdKAdEHKAdKYAdLAdMAdNAdOdOINdPA",
  "104EDdEHPAdSAdSHAdTAdEHTAdTSAdEHTSAdTSHAdDHAdUdWAdKHAdGHAdZAdZHA",
  "10500aELBASAN LETTER AcBEcCEcCHEcDEcNDEcDHEcEIcEcFEcGEcGJEcHEcIcJEcKEcLEcLLEcMEcNEcNAcNJEcO",
  "10517cPEcQEcREcRREcSEcSHEcTEcTHEcUcVEcXEcYcZEcZHEcGHEcGHAMMAcKHE",
  "10530aCAUCASIAN ALBANIAN LETTER ALTdBETdGIMdDATdEBdZARLdEYNdZHILdTASdCHAdYOWDdZHAdIRBdSHA",
  "1053EdLANdINYAdXEYNdDYANdCARdJHOXdKARdLYITdHEYTdQAYdAORdCHOYdCHIdCYAYdMAQdQARdNOWCdDZYAY",
  "10550dSHAKdJAYNdONdTYAYdFAMdDZAYdCHATdPENdGHEYSdRATdSEYKdVEYZdTIWRdSHOYdIWNdCYAWdCAYNdYAYD",
  "10562dPIWRdKIW",
  "1056FcCITATION MARKaVITHKUQI CAPITAL LETTER AdBBEdBEdCEdCHEdDEdDHEdEIdEdFEdGA",
  "1057CdHAdHHAdIdIJEdJEdKAdLAdLLAdMEdNEdNJEdOdPEdQAdRE",
  "1058CdSEdSHEdTEdTHEdUdVEdXE",
  "10594dYdZE",
  "10597bSMALL LETTER AdBBEdBEdCEdCHEdDEdDHEdEIdEdFEdGA",
  "105A3dHAdHHAdIdIJEdJEdKAdLAdLLAdMEdNEdNJEdOdPEdQAdRE",
  "105B3dSEdSHEdTEdTHEdUdVEdXE",
  "105BBdYdZE",
  "10600aLINEAR A SIGN AB001dAB002dAB003dAB004dAB005dAB006dAB007dAB008dAB009dAB010dAB011dAB013",
  "1060CdAB016dAB017dAB020dAB021dAB021FdAB021MdAB022dAB022FdAB022MdAB023dAB023MdAB024dAB026",
  "10619dAB027dAB028dA028BdAB029dAB030dAB031dAB034dAB037dAB038dAB039dAB040dAB041dAB044dAB045",
  "10627dAB046dAB047dAB048dAB049dAB050dAB051dAB053dAB054dAB055dAB056dAB057dAB058dAB059dAB060",
  "10635dAB061dAB065dAB066dAB067dAB069dAB070dAB073dAB074dAB076dAB077dAB078dAB079dAB080dAB081",
  "10643dAB082dAB085dAB086dAB087dA100-102dAB118dAB120dA120BdAB122dAB123dAB131AdAB131BdA131C",
  "10650dAB164dAB171dAB180dAB188dAB191dA301dA302dA303dA304dA305dA306dA307dA308dA309AdA309B",
  "1065FdA309CdA310dA311dA312dA313AdA313BdA313CdA314dA315dA316dA317dA318dA319dA320dA321dA322",
  "1066FdA323dA324dA325dA326dA327dA328dA329dA330dA331dA332dA333dA334dA335dA336dA337dA338dA339",
  "10680dA340dA341dA342dA343dA344dA345dA346dA347dA348dA349dA350dA351dA352dA353dA354dA355dA356",
  "10691dA357dA358dA359dA360dA361dA362dA363dA364dA365dA366dA367dA368dA369dA370dA371dA400-VAS",
  "106A1dA401-VASdA402-VASdA403-VASdA404-VASdA405-VASdA406-VASdA407-VASdA408-VASdA409-VAS",
  "106AAdA410-VASdA411-VASdA412-VASdA413-VASdA414-VASdA415-VASdA416-VASdA417-VASdA418-VASdA501",
  "106B4dA502dA503dA504dA505dA506dA508dA509dA510dA511dA512dA513dA515dA516dA520dA521dA523dA524",
  "106C5dA525dA526dA527dA528dA529dA530dA531dA532dA534dA535dA536dA537dA538dA539dA540dA541dA542",
  "106D6dA545dA547dA548dA549dA550dA551dA552dA553dA554dA555dA556dA557dA559dA563dA564dA565dA566",
  "106E7dA568dA569dA570dA571dA572dA573dA574dA575dA576dA577dA578dA579dA580dA581dA582dA583dA584",
  "106F8dA585dA586dA587dA588dA589dA591dA592dA594dA595dA596dA598dA600dA601dA602dA603dA604dA606",
  "10709dA608dA609dA610dA611dA612dA613dA614dA615dA616dA617dA618dA619dA620dA621dA622dA623dA624",
  "1071AdA626dA627dA628dA629dA634dA637dA638dA640dA642dA643dA644dA645dA646dA648dA649dA651dA652",
  "1072BdA653dA654dA655dA656dA657dA658dA659dA660dA661dA662dA663dA664",
  "10740dA701 AdA702 BdA703 DdA704 EdA705 FdA706 HdA707 JdA708 KdA709 LdA709-2 L2dA709-3 L3",
  "1074BdA709-4 L4dA709-6 L6dA710 WdA711 XdA712 YdA713 OMEGAdA714 ABBdA715 BBdA717 DDdA726 EYYY",
  "10755dA732 JE",
  "10760dA800dA801dA802dA803dA804dA805dA806dA807",
  "10780aMODIFIER LETTER SMALL CAPITAL AAcSUPERSCRIPT TRIANGULAR COLONdHALF TRIANGULAR COLON",
  "10783cSMALL AEdCAPITAL BdB WITH HOOK",
  "10787dDZ DIGRAPHfWITH RETROFLEX HOOKgCURLdDEZH DIGRAPHdD WITH TAILfHOOKgAND TAILdREVERSED E",
  "1078FdCLOSED REVERSED OPEN EdFENG DIGRAPHdRAMS HORNdCAPITAL GdG WITH HOOK",
  "10794dCAPITAL G WITH HOOKdH WITH STROKEdCAPITAL HdHENG WITH HOOK",
  "10798dDOTLESS J WITH STROKE AND HOOKdLS DIGRAPHdLZ DIGRAPHdL WITH BELTdCAPITAL L WITH BELT",
  "1079DdL WITH RETROFLEX HOOK AND BELTdLEZHeWITH RETROFLEX HOOKdTURNED YfWITH BELT",
  "107A2dO WITH STROKEdCAPITAL OEdCLOSED OMEGAdQdTURNED R WITH LONG LEGiAND RETROFLEX HOOK",
  "107A8dR WITH TAILfFISHHOOKdCAPITAL RdTC DIGRAPH WITH CURLdTS DIGRAPHfWITH RETROFLEX HOOK",
  "107AEdTESH DIGRAPHdT WITH RETROFLEX HOOKdV WITH RIGHT HOOK",
  "107B2dCAPITAL YcGLOTTAL STOP WITH STROKEcREVERSED GLOTTAL STOP WITH STROKEcBILABIAL CLICK",
  "107B6cDENTAL CLICKcLATERAL CLICKcALVEOLAR CLICKcRETROFLEX CLICK WITH RETROFLEX HOOK",
  "107BAcSMALL S WITH CURL",
  "10800aCYPRIOT SYLLABLE AcEcIcOcUcJA",
  "10808cJO",
  "1080AcKAcKEcKIcKOcKUcLAcLEcLIcLOcLUcMAcMEcMIcMOcMUcNAcNEcNIcNOcNUcPAcPEcPIcPOcPUcRAcREcRIcRO",
  "10827cRUcSAcSEcSIcSOcSUcTAcTEcTIcTOcTUcWAcWEcWIcWO",
  "10837cXAcXE",
  "1083CcZA",
  "1083FcZOaIMPERIAL ARAMAIC LETTER ALEPHdBETHdGIMELdDALETHdHEdWAWdZAYINdHETHdTETHdYODHdKAPH",
  "1084BdLAMEDHdMEMdNUNdSAMEKHdAYINdPEdSADHEdQOPHdRESHdSHINdTAW",
  "10857cSECTION SIGNcNUMBER ONEdTWOdTHREEdTENdTWENTYdONE HUNDREDeTHOUSANDdTEN THOUSAND",
  "10860aPALMYRENE LETTER ALEPHcBETHcGIMELcDALETHcHEcWAWcZAYINcHETHcTETHcYODHcKAPHcLAMEDHcMEM",
  "1086DcFINAL NUNcNUNcSAMEKHcAYINcPEcSADHEcQOPHcRESHcSHINcTAWbLEFT-POINTING FLEURON",
  "10878bRIGHT-POINTING FLEURONbNUMBER ONEcTWOcTHREEcFOURcFIVEcTENcTWENTY",
  "10880aNABATAEAN LETTER FINAL ALEPHcALEPHcFINAL BETHcBETHcGIMELcDALETHcFINAL HEcHEcWAWcZAYIN",
  "1088AcHETHcTETHcFINAL YODHcYODHcFINAL KAPHcKAPHcFINAL LAMEDHcLAMEDHcFINAL MEMcMEMcFINAL NUN",
  "10895cNUNcSAMEKHcAYINcPEcSADHEcQOPHcRESHcFINAL SHINcSHINcTAW",
  "108A7bNUMBER ONEcTWOcTHREEcFOURbCRUCIFORM NUMBER FOURbNUMBER FIVEcTENcTWENTYcONE HUNDRED",
  "108E0aHATRAN LETTER ALEPHcBETHcGIMELcDALETH-RESHcHEcWAWcZAYNcHETHcTETHcYODHcKAPHcLAMEDHcMEM",
  "108EDcNUNcSAMEKHcAYNcPEcSADHEcQOPH",
  "108F4cSHINcTAW",
  "108FBbNUMBER ONEcFIVEcTENcTWENTYcONE HUNDREDaPHOENICIAN LETTER ALFcBETcGAMLcDELTcHEcWAUcZAI",
  "10907cHETcTETcYODcKAFcLAMDcMEMcNUNcSEMKcAINcPEcSADEcQOFcROSHcSHINcTAUbNUMBER ONEcTENcTWENTY",
  "10919cONE HUNDREDcTWOcTHREE",
  "1091FbWORD SEPARATORaLYDIAN LETTER AcBcGcDcEcVcIcYcKcLcMcNcOcRcSScTcUcFcQcScTTcANcENcLYcNNcC",
  "1093FbTRIANGULAR MARK",
  "10980aMEROITIC HIEROGLYPHIC LETTER AdEdIdOdYAdWAdBAdBA-2dPAdMAdNAdNA-2dNEdNE-2dRAdRA-2dLA",
  "10991dKHAdHHAdSAdSA-2dSEdKAdQAdTAdTA-2dTEdTE-2dTOdDAcSYMBOL VIDJdVIDJ-2bCURSIVE LETTER AdEdI",
  "109A3dOdYAdWAdBAdPAdMAdNAdNEdRAdLAdKHAdHHAdSAdARCHAIC SAdSEdKAdQAdTAdTEdTOdDA",
  "109BCcFRACTION ELEVEN TWELFTHSdONE HALFcLOGOGRAM RMTdIMNcNUMBER ONEdTWOdTHREEdFOURdFIVEdSIX",
  "109C6dSEVENdEIGHTdNINEdTENdTWENTYdTHIRTYdFORTYdFIFTYdSIXTYdSEVENTY",
  "109D2dONE HUNDREDdTWO HUNDREDdTHREE HUNDREDdFOUR HUNDREDdFIVE HUNDREDdSIX HUNDRED",
  "109D8dSEVEN HUNDREDdEIGHT HUNDREDdNINE HUNDREDdONE THOUSANDdTWO THOUSANDdTHREE THOUSAND",
  "109DEdFOUR THOUSANDdFIVE THOUSANDdSIX THOUSANDdSEVEN THOUSANDdEIGHT THOUSANDdNINE THOUSAND",
  "109E4dTEN THOUSANDdTWENTY THOUSANDdTHIRTY THOUSANDdFORTY THOUSANDdFIFTY THOUSAND",
  "109E9dSIXTY THOUSANDdSEVENTY THOUSANDdEIGHTY THOUSANDdNINETY THOUSANDdONE HUNDRED THOUSAND",
  "109EEdTWO HUNDRED THOUSANDdTHREE HUNDRED THOUSANDdFOUR HUNDRED THOUSAND",
  "109F1dFIVE HUNDRED THOUSANDdSIX HUNDRED THOUSANDdSEVEN HUNDRED THOUSAND",
  "109F4dEIGHT HUNDRED THOUSANDdNINE HUNDRED THOUSANDcFRACTION ONE TWELFTHdTWO TWELFTHS",
  "109F8dTHREE TWELFTHSdFOUR TWELFTHSdFIVE TWELFTHSdSIX TWELFTHSdSEVEN TWELFTHSdEIGHT TWELFTHS",
  "109FEdNINE TWELFTHSdTEN TWELFTHSaKHAROSHTHI LETTER AbVOWEL SIGN IdUdVOCALIC R",
  "10A05dEdO",
  "10A0CcLENGTH MARKbSIGN DOUBLE RING BELOWcANUSVARAcVISARGAbLETTER KAcKHAcGAcGHA",
  "10A15cCAcCHAcJA",
  "10A19cNYAcTTAcTTHAcDDAcDDHAcNNAcTAcTHAcDAcDHAcNAcPAcPHAcBAcBHAcMAcYAcRAcLAcVAcSHAcSSAcSAcZA",
  "10A31cHAcKKAcTTTHAcTTTAcVHA",
  "10A38bSIGN BAR ABOVEcCAUDAcDOT BELOW",
  "10A3FbVIRAMAbDIGIT ONEcTWOcTHREEcFOURbNUMBER TENcTWENTYcONE HUNDREDdTHOUSAND",
  "10A48bFRACTION ONE HALF",
  "10A50bPUNCTUATION DOTcSMALL CIRCLEcCIRCLEcCRESCENT BARcMANGALAMcLOTUScDANDAcDOUBLE DANDA",
  "10A58cLINES",
  "10A60aOLD SOUTH ARABIAN LETTER HEeLAMEDHeHETHeMEMeQOPHeWAWeSHINeRESHeBETHeTAWeSATeKAPHeNUN",
  "10A6DeKHETHeSADHEeSAMEKHeFEeALEFeAYNeDHADHEeGIMELeDALETHeGHAYNeTETHeZAYNeDHALETHeYODHeTHAW",
  "10A7CeTHETHdNUMBER ONEeFIFTYdNUMERIC INDICATORbNORTH ARABIAN LETTER HEHeLAMeHAHeMEEMeQAFeWAW",
  "10A86eES-2eREHeBEHeTEHeES-1eKAFeNOONeKHAHeSADeES-3eFEHeALEFeAINeDADeGEEMeDALeGHAINeTAHeZAIN",
  "10A99eTHALeYEHeTHEHeZAHdNUMBER ONEeTENeTWENTY",
  "10AC0aMANICHAEAN LETTER ALEPHcBETHcBHETHcGIMELcGHIMELcDALETHcHEcWAWbSIGN UDbLETTER ZAYIN",
  "10ACAcZHAYINcJAYINcJHAYINcHETHcTETHcYODHcKAPHcXAPHcKHAPHcLAMEDHcDHAMEDHcTHAMEDHcMEMcNUN",
  "10AD8cSAMEKHcAYINcAAYINcPEcFEcSADHEcQOPHcXOPHcQHOPHcRESHcSHINcSSHINcTAW",
  "10AE5bABBREVIATION MARK ABOVEdBELOW",
  "10AEBbNUMBER ONEcFIVEcTENcTWENTYcONE HUNDREDbPUNCTUATION STARcFLEURONcDOUBLE DOT WITHIN DOT",
  "10AF3cDOT WITHIN DOTdcTWO DOTScLINE FILLER",
  "10B00aAVESTAN LETTER AcAAcAOcAAOcANcAANcAEcAEEcEcEEcOcOOcIcIIcUcUUcKEcXEcXYEcXVEcGEcGGEcGHE",
  "10B17cCEcJEcTEcTHEcDEcDHEcTTEcPEcFEcBEcBHEcNGEcNGYEcNGVEcNEcNYEcNNEcMEcHMEcYYEcYEcVEcREcLE",
  "10B2FcSEcZEcSHEcZHEcSHYEcSSHEcHE",
  "10B39bABBREVIATION MARKaTINY TWO DOTS OVER ONE DOT PUNCTUATION",
  "10B3BaSMALL TWO DOTS OVER ONE DOT PUNCTUATIONaLARGE TWO DOTS OVER ONE DOT PUNCTUATION",
  "10B3DbONE DOT OVER TWO DOTS PUNCTUATIONbTWO RINGS OVER ONE RING PUNCTUATION",
  "10B3FbONE RING OVER TWO RINGS PUNCTUATIONaINSCRIPTIONAL PARTHIAN LETTER ALEPHdBETHdGIMEL",
  "10B43dDALETHdHEdWAWdZAYINdHETHdTETHdYODHdKAPHdLAMEDHdMEMdNUNdSAMEKHdAYINdPEdSADHEdQOPHdRESH",
  "10B54dSHINdTAW",
  "10B58cNUMBER ONEdTWOdTHREEdFOURdTENdTWENTYdONE HUNDREDeTHOUSANDbPAHLAVI LETTER ALEPHdBETH",
  "10B62dGIMELdDALETHdHEdWAW-AYIN-RESHdZAYINdHETHdTETHdYODHdKAPHdLAMEDHdMEM-QOPHdNUNdSAMEKHdPE",
  "10B70dSADHEdSHINdTAW",
  "10B78cNUMBER ONEdTWOdTHREEdFOURdTENdTWENTYdONE HUNDREDeTHOUSANDaPSALTER PAHLAVI LETTER ALEPH",
  "10B81dBETHdGIMELdDALETHdHEdWAW-AYIN-RESHdZAYINdHETHdYODHdKAPHdLAMEDHdMEM-QOPHdNUNdSAMEKHdPE",
  "10B8FdSADHEdSHINdTAW",
  "10B99cSECTION MARKcTURNED SECTION MARKcFOUR DOTS WITH CROSSfDOT",
  "10BA9cNUMBER ONEdTWOdTHREEdFOURdTENdTWENTYdONE HUNDRED",
  "10C00aOLD TURKIC LETTER ORKHON AdYENISEI AeAEdORKHON IdYENISEI IeEdORKHON OeOEdYENISEI OE",
  "10C09dORKHON ABdYENISEI ABdORKHON AEBdYENISEI AEBdORKHON AGdYENISEI AGdORKHON AEG",
  "10C10dYENISEI AEGdORKHON ADdYENISEI ADdORKHON AEDeEZdYENISEI EZdORKHON AYdYENISEI AY",
  "10C18dORKHON AEYdYENISEI AEYdORKHON AEKdYENISEI AEKdORKHON OEKdYENISEI OEKdORKHON AL",
  "10C1FdYENISEI ALdORKHON AELeELTeEMeANeAENdYENISEI AENdORKHON ENTdYENISEI ENTdORKHON ENC",
  "10C29dYENISEI ENCdORKHON ENYdYENISEI ENYeANGdORKHON ENGdYENISEI AENGdORKHON EPeOPeICeEC",
  "10C33dYENISEI ECdORKHON AQdYENISEI AQdORKHON IQdYENISEI IQdORKHON OQdYENISEI OQdORKHON AR",
  "10C3BdYENISEI ARdORKHON AEReASeAESeASHdYENISEI ASHdORKHON ESHdYENISEI ESHdORKHON AT",
  "10C44dYENISEI ATdORKHON AETdYENISEI AETdORKHON OTeBASH",
  "10C80bHUNGARIAN CAPITAL LETTER AeAAeEBeAMBeECeENCeECSeEDeANDeEeCLOSE EeEEeEFeEGeEGYeEHeIeII",
  "10C92eEJeEKeAKeUNKeELeELYeEMeENeENYeOeOOeNIKOLSBURG OEeRUDIMENTA OEeOEEeEPeEMPeEReSHORT ER",
  "10CA4eESeESZeETeENTeETYeECHeUeUUeNIKOLSBURG UEeRUDIMENTA UEeEVeEZeEZSeENT-SHAPED SIGNeUS",
  "10CC0cSMALL LETTER AeAAeEBeAMBeECeENCeECSeEDeANDeEeCLOSE EeEEeEFeEGeEGYeEHeIeIIeEJeEKeAKeUNK",
  "10CD6eELeELYeEMeENeENYeOeOOeNIKOLSBURG OEeRUDIMENTA OEeOEEeEPeEMPeEReSHORT EReESeESZeETeENT",
  "10CE8eETYeECHeUeUUeNIKOLSBURG UEeRUDIMENTA UEeEVeEZeEZSeENT-SHAPED SIGNeUS",
  "10CFAcNUMBER ONEdFIVEdTENdFIFTYdONE HUNDREDeTHOUSANDaHANIFI ROHINGYA LETTER AdBAdPAdTAdTTA",
  "10D05dJAdCAdHAdKHAdFAdDAdDDAdRAdRRAdZAdSAdSHAdKAdGAdLAdMAdNAdWAdKINNA WAdYAdKINNA YAdNGAdNYA",
  "10D1CdVAcVOWEL AdIdUdEdOcMARK SAKINdNA KHONNAcSIGN HARBAHAYdTAHALAdTANAdTASSI",
  "10D30cDIGIT ZEROdONEdTWOdTHREEdFOURdFIVEdSIXdSEVENdEIGHTdNINE",
  "10E60aRUMI DIGIT ONEcTWOcTHREEcFOURcFIVEcSIXcSEVENcEIGHTcNINEbNUMBER TENcTWENTYcTHIRTYcFORTY",
  "10E6DcFIFTYcSIXTYcSEVENTYcEIGHTYcNINETYcONE HUNDREDcTWO HUNDREDcTHREE HUNDREDcFOUR HUNDRED",
  "10E76cFIVE HUNDREDcSIX HUNDREDcSEVEN HUNDREDcEIGHT HUNDREDcNINE HUNDREDbFRACTION ONE HALF",
  "10E7CdQUARTERdTHIRDcTWO THIRDS",
  "10E80aYEZIDI LETTER ELIFcBEcPEcPHEcTHEcSEcCIMcCHIMcCHHIMcHHAcXAcDALcZALcRAcRHAcZAcJAcSIN",
  "10E92cSHINcSADcDADcTAcZEcEYNcXHEYNcFAcVAdALTERNATE FORMcQAFcKAFcKHAFcGAFcLAMcMIMcNUNcUMcWAW",
  "10EA5cOWcEWcHAYcYOTcET",
  "10EABbCOMBINING HAMZA MARKcMADDA MARKbHYPHENATION MARK",
  "10EB0bLETTER LAM WITH DOT ABOVEcYOT WITH CIRCUMFLEX ABOVE",
  "10F00aOLD SOGDIAN LETTER ALEPHdFINAL ALEPHdBETHdFINAL BETHdGIMELdHEdFINAL HEdWAWdZAYINdHETH",
  "10F0AdYODHdKAPHdLAMEDHdMEMdNUNdFINAL NUNfWITH VERTICAL TAILdSAMEKHdAYINdALTERNATE AYINdPE",
  "10F15dSADHEdFINAL SADHEfWITH VERTICAL TAILdRESH-AYIN-DALETHdSHINdTAWdFINAL TAW",
  "10F1CfWITH VERTICAL TAILcNUMBER ONEdTWOdTHREEdFOURdFIVEdTENdTWENTYdTHIRTYdONE HUNDRED",
  "10F26cFRACTION ONE HALFcLIGATURE AYIN-DALETH",
  "10F30aSOGDIAN LETTER ALEPHcBETHcGIMELcHEcWAWcZAYINcHETHcYODHcKAPHcLAMEDHcMEMcNUNcSAMEKHcAYIN",
  "10F3EcPEcSADHEcRESH-AYINcSHINcTAWcFETHcLESHbINDEPENDENT SHINbCOMBINING DOT BELOW",
  "10F47cTWO DOTS BELOWcDOT ABOVEcTWO DOTS ABOVEcCURVE ABOVEdBELOWcHOOK ABOVEdBELOW",
  "10F4EcLONG HOOK BELOWcRESH BELOWcSTROKE BELOWbNUMBER ONEcTENcTWENTYcONE HUNDRED",
  "10F55bPUNCTUATION TWO VERTICAL BARSfWITH DOTScCIRCLE WITH DOTcTWO CIRCLES WITH DOTS",
  "10F59cHALF CIRCLE WITH DOT",
  "10F70aOLD UYGHUR LETTER ALEPHdBETHdGIMEL-HETHdWAWdZAYINdFINAL HETHdYODHdKAPHdLAMEDHdMEMdNUN",
  "10F7BdSAMEKHdPEdSADHEdRESHdSHINdTAWdLESHcCOMBINING DOT ABOVEeBELOWdTWO DOTS ABOVEfBELOW",
  "10F86cPUNCTUATION BARdTWO BARSeDOTSdFOUR DOTS",
  "10FB0aCHORASMIAN LETTER ALEPHcSMALL ALEPHcBETHcGIMELcDALETHcHEcWAWcCURLED WAWcZAYINcHETH",
  "10FBAcYODHcKAPHcLAMEDHcMEMcNUNcSAMEKHcAYINcPEcRESHcSHINcTAWbNUMBER ONEcTWOcTHREEcFOURcTEN",
  "10FCAcTWENTYcONE HUNDRED",
  "10FE0aELYMAIC LETTER ALEPHcBETHcGIMELcDALETHcHEcWAWcZAYINcHETHcTETHcYODHcKAPHcLAMEDHcMEMcNUN",
  "10FEEcSAMEKHcAYINcPEcSADHEcQOPHcRESHcSHINcTAWbLIGATURE ZAYIN-YODH",
  "11000aBRAHMI SIGN CANDRABINDUcANUSVARAcVISARGAcJIHVAMULIYAcUPADHMANIYAbLETTER AcAAcIcIIcUcUU",
  "1100BcVOCALIC RdRRdLdLLcEcAIcOcAUcKAcKHAcGAcGHAcNGAcCAcCHAcJAcJHAcNYAcTTAcTTHAcDDAcDDHAcNNA",
  "11022cTAcTHAcDAcDHAcNAcPAcPHAcBAcBHAcMAcYAcRAcLAcVAcSHAcSSAcSAcHAcLLAcOLD TAMIL LLLAeRRA",
  "11037eNNNAbVOWEL SIGN AAdBHATTIPROLU AAdIdIIdUdUUdVOCALIC ReRReLeLLdEdAIdOdAUbVIRAMAbDANDA",
  "11048bDOUBLE DANDAbPUNCTUATION DOTcDOUBLE DOTcLINEcCRESCENT BARcLOTUS",
  "11052bNUMBER ONEcTWOcTHREEcFOURcFIVEcSIXcSEVENcEIGHTcNINEcTENcTWENTYcTHIRTYcFORTYcFIFTY",
  "11060cSIXTYcSEVENTYcEIGHTYcNINETYcONE HUNDREDdTHOUSANDbDIGIT ZEROcONEcTWOcTHREEcFOURcFIVE",
  "1106CcSIXcSEVENcEIGHTcNINEbSIGN OLD TAMIL VIRAMAbLETTER OLD TAMIL SHORT EfO",
  "11073bVOWEL SIGN OLD TAMIL SHORT EgObLETTER OLD TAMIL LLA",
  "1107FbNUMBER JOINERaKAITHI SIGN CANDRABINDUcANUSVARAcVISARGAbLETTER AcAAcIcIIcUcUUcEcAIcOcAU",
  "1108DcKAcKHAcGAcGHAcNGAcCAcCHAcJAcJHAcNYAcTTAcTTHAcDDAcDDDHAcDDHAcRHAcNNAcTAcTHAcDAcDHAcNA",
  "110A3cPAcPHAcBAcBHAcMAcYAcRAcLAcVAcSHAcSSAcSAcHAbVOWEL SIGN AAdIdIIdUdUUdEdAIdOdAU",
  "110B9bSIGN VIRAMAcNUKTAbABBREVIATION SIGNbENUMERATION SIGNbNUMBER SIGNbSECTION MARK",
  "110BFbDOUBLE SECTION MARKbDANDAbDOUBLE DANDAbVOWEL SIGN VOCALIC R",
  "110CDbNUMBER SIGN ABOVE",
  "110D0aSORA SOMPENG LETTER SAHdTAHdBAHdCAHdDAHdGAHdMAHdNGAHdLAHdNAHdVAHdPAHdYAHdRAHdHAHdKAH",
  "110E0dJAHdNYAHdAHdEEHdIHdUHdOHdEHdMAE",
  "110F0cDIGIT ZEROdONEdTWOdTHREEdFOURdFIVEdSIXdSEVENdEIGHTdNINE",
  "11100aCHAKMA SIGN CANDRABINDUcANUSVARAcVISARGAbLETTER AAcIcUcEcKAAcKHAAcGAAcGHAAcNGAAcCAA",
  "1110DcCHAAcJAAcJHAAcNYAAcTTAAcTTHAAcDDAAcDDHAAcNNAAcTAAcTHAAcDAAcDHAAcNAAcPAAcPHAAcBAAcBHAA",
  "1111FcMAAcYYAAcYAAcRAAcLAAcWAAcSAAcHAAbVOWEL SIGN AdIdIIdUdUUdEdAIdOdAUdOIbO MARKbAU MARK",
  "11133bVIRAMAbMAAYYAA",
  "11136bDIGIT ZEROcONEcTWOcTHREEcFOURcFIVEcSIXcSEVENcEIGHTcNINEbSECTION MARKbDANDA",
  "11142bDOUBLE DANDAbQUESTION MARKbLETTER LHAAbVOWEL SIGN AAdEIbLETTER VAA",
  "11150aMAHAJANI LETTER AcIcUcEcOcKAcKHAcGAcGHAcCAcCHAcJAcJHAcNYAcTTAcTTHAcDDAcDDHAcNNAcTAcTHA",
  "11165cDAcDHAcNAcPAcPHAcBAcBHAcMAcRAcLAcVAcSAcHAcRRAbSIGN NUKTAbABBREVIATION SIGN",
  "11175bSECTION MARKbLIGATURE SHRI",
  "11180aSHARADA SIGN CANDRABINDUcANUSVARAcVISARGAbLETTER AcAAcIcIIcUcUUcVOCALIC RdRRdLdLLcEcAI",
  "1118FcOcAUcKAcKHAcGAcGHAcNGAcCAcCHAcJAcJHAcNYAcTTAcTTHAcDDAcDDHAcNNAcTAcTHAcDAcDHAcNAcPAcPHA",
  "111A7cBAcBHAcMAcYAcRAcLAcLLAcVAcSHAcSSAcSAcHAbVOWEL SIGN AAdIdIIdUdUUdVOCALIC ReRReLeLLdEdAI",
  "111BEdOdAUbSIGN VIRAMAcAVAGRAHAcJIHVAMULIYAcUPADHMANIYAbOMbDANDAbDOUBLE DANDA",
  "111C7bABBREVIATION SIGNbSEPARATORbSANDHI MARKbSIGN NUKTAbVOWEL MODIFIER MARK",
  "111CCbEXTRA SHORT VOWEL MARKbSUTRA MARKbVOWEL SIGN PRISHTHAMATRA EbSIGN INVERTED CANDRABINDU",
  "111D0bDIGIT ZEROcONEcTWOcTHREEcFOURcFIVEcSIXcSEVENcEIGHTcNINEbEKAMbSIGN SIDDHAMbHEADSTROKE",
  "111DDbCONTINUATION SIGNbSECTION MARK-1cMARK-2",
  "111E1aSINHALA ARCHAIC DIGIT ONEdTWOdTHREEdFOURdFIVEdSIXdSEVENdEIGHTdNINEcNUMBER TENdTWENTY",
  "111ECdTHIRTYdFORTYdFIFTYdSIXTYdSEVENTYdEIGHTYdNINETYdONE HUNDREDeTHOUSAND",
  "11200aKHOJKI LETTER AcAAcIcUcEcAIcOcAUcKAcKHAcGAcGGAcGHAcNGAcCAcCHAcJAcJJA",
  "11213cNYAcTTAcTTHAcDDAcDDHAcNNAcTAcTHAcDAcDDDAcDHAcNAcPAcPHAcBAcBBAcBHAcMAcYAcRAcLAcVAcSAcHA",
  "1122BcLLAbVOWEL SIGN AAdIdIIdUdEdAIdOdAUbSIGN ANUSVARAcVIRAMAcNUKTAcSHADDAbDANDA",
  "11239bDOUBLE DANDAbWORD SEPARATORbSECTION MARKbDOUBLE SECTION MARKbABBREVIATION SIGN",
  "1123EbSIGN SUKUN",
  "11280aMULTANI LETTER AcIcUcEcKAcKHAcGA",
  "11288cGHA",
  "1128AcCAcCHAcJAcJJA",
  "1128FcNYAcTTAcTTHAcDDAcDDDAcDDHAcNNAcTAcTHAcDAcDHAcNAcPAcPHAcBA",
  "1129FcBHAcMAcYAcRAcLAcVAcSAcHAcRRAcRHAbSECTION MARK",
  "112B0aKHUDAWADI LETTER AcAAcIcIIcUcUUcEcAIcOcAUcKAcKHAcGAcGGAcGHAcNGAcCAcCHAcJAcJJAcJHAcNYA",
  "112C6cTTAcTTHAcDDAcDDDAcRRAcDDHAcNNAcTAcTHAcDAcDHAcNAcPAcPHAcBAcBBAcBHAcMAcYAcRAcLAcVAcSHA",
  "112DDcSAcHAbSIGN ANUSVARAbVOWEL SIGN AAdIdIIdUdUUdEdAIdOdAUbSIGN NUKTAcVIRAMA",
  "112F0bDIGIT ZEROcONEcTWOcTHREEcFOURcFIVEcSIXcSEVENcEIGHTcNINE",
  "11300aGRANTHA SIGN COMBINING ANUSVARA ABOVEcCANDRABINDUcANUSVARAcVISARGA",
  "11305bLETTER AcAAcIcIIcUcUUcVOCALIC RdL",
  "1130FcEEcAI",
  "11313cOOcAUcKAcKHAcGAcGHAcNGAcCAcCHAcJAcJHAcNYAcTTAcTTHAcDDAcDDHAcNNAcTAcTHAcDAcDHAcNA",
  "1132AcPAcPHAcBAcBHAcMAcYAcRA",
  "11332cLAcLLA",
  "11335cVAcSHAcSSAcSAcHA",
  "1133BaCOMBINING BINDU BELOWaGRANTHA SIGN NUKTAcAVAGRAHAbVOWEL SIGN AAdIdIIdUdUUdVOCALIC ReRR",
  "11347dEEdAI",
  "1134BdOOdAUbSIGN VIRAMA",
  "11350bOM",
  "11357bAU LENGTH MARK",
  "1135DbSIGN PLUTAbLETTER VEDIC ANUSVARAdDOUBLE ANUSVARAcVOCALIC RRdLLbVOWEL SIGN VOCALIC LeLL",
  "11366aCOMBINING GRANTHA DIGIT ZEROdONEdTWOdTHREEdFOURdFIVEdSIX",
  "11370cLETTER AdKAdNAdVIdPA",
  "11400aNEWA LETTER AcAAcIcIIcUcUUcVOCALIC RdRRdLdLLcEcAIcOcAUcKAcKHAcGAcGHAcNGAcNGHAcCAcCHA",
  "11416cJAcJHAcNYAcNYHAcTTAcTTHAcDDAcDDHAcNNAcTAcTHAcDAcDHAcNAcNHAcPAcPHAcBAcBHAcMAcMHAcYAcRA",
  "1142DcRHAcLAcLHAcWAcSHAcSSAcSAcHAbVOWEL SIGN AAdIdIIdUdUUdVOCALIC ReRReLeLLdEdAIdOdAU",
  "11442bSIGN VIRAMAcCANDRABINDUcANUSVARAcVISARGAcNUKTAcAVAGRAHAcFINAL ANUSVARAbOMbSIDDHIbDANDA",
  "1144CbDOUBLE DANDAbCOMMAbGAP FILLERbABBREVIATION SIGNbDIGIT ZEROcONEcTWOcTHREEcFOURcFIVEcSIX",
  "11457cSEVENcEIGHTcNINEbDOUBLE COMMAbPLACEHOLDER MARK",
  "1145DbINSERTION SIGNbSANDHI MARKbLETTER VEDIC ANUSVARAbSIGN JIHVAMULIYAcUPADHMANIYA",
  "11480aTIRHUTA ANJIbLETTER AcAAcIcIIcUcUUcVOCALIC RdRRdLdLLcEcAIcOcAUcKAcKHAcGAcGHAcNGAcCA",
  "11495cCHAcJAcJHAcNYAcTTAcTTHAcDDAcDDHAcNNAcTAcTHAcDAcDHAcNAcPAcPHAcBAcBHAcMAcYAcRAcLAcVAcSHA",
  "114ADcSSAcSAcHAbVOWEL SIGN AAdIdIIdUdUUdVOCALIC ReRReLeLLdEdSHORT EdAIdOdSHORT OdAU",
  "114BFbSIGN CANDRABINDUcANUSVARAcVISARGAcVIRAMAcNUKTAcAVAGRAHAbGVANGbABBREVIATION SIGNbOM",
  "114D0bDIGIT ZEROcONEcTWOcTHREEcFOURcFIVEcSIXcSEVENcEIGHTcNINE",
  "11580aSIDDHAM LETTER AcAAcIcIIcUcUUcVOCALIC RdRRdLdLLcEcAIcOcAUcKAcKHAcGAcGHAcNGAcCAcCHAcJA",
  "11596cJHAcNYAcTTAcTTHAcDDAcDDHAcNNAcTAcTHAcDAcDHAcNAcPAcPHAcBAcBHAcMAcYAcRAcLAcVAcSHAcSSAcSA",
  "115AEcHAbVOWEL SIGN AAdIdIIdUdUUdVOCALIC ReRR",
  "115B8dEdAIdOdAUbSIGN CANDRABINDUcANUSVARAcVISARGAcVIRAMAcNUKTAcSIDDHAMbDANDAbDOUBLE DANDA",
  "115C4bSEPARATOR DOTcBARbREPETITION MARK-1cMARK-2cMARK-3bEND OF TEXT MARK",
  "115CAbSECTION MARK WITH TRIDENT AND U-SHAPED ORNAMENTSgDOTTED CRESCENTS",
  "115CCeRAYS AND DOTTED CRESCENTShDOUBLE CRESCENTShTRIPLE CRESCENTSdDOUBLE RINGfWITH RAYS",
  "115D1dWITH DOUBLE CRESCENTSeTRIPLE CRESCENTSeQUADRUPLE CRESCENTSeSEPTUPLE CRESCENTS",
  "115D5eCIRCLES AND RAYSgTWO ENCLOSURESgFOUR ENCLOSURESbLETTER THREE-CIRCLE ALTERNATE I",
  "115D9cTWO-CIRCLE ALTERNATE IeIIcALTERNATE UbVOWEL SIGN ALTERNATE UeUU",
  "11600aMODI LETTER AcAAcIcIIcUcUUcVOCALIC RdRRdLdLLcEcAIcOcAUcKAcKHAcGAcGHAcNGAcCAcCHAcJAcJHA",
  "11617cNYAcTTAcTTHAcDDAcDDHAcNNAcTAcTHAcDAcDHAcNAcPAcPHAcBAcBHAcMAcYAcRAcLAcVAcSHAcSSAcSAcHA",
  "1162FcLLAbVOWEL SIGN AAdIdIIdUdUUdVOCALIC ReRReLeLLdEdAIdOdAUbSIGN ANUSVARAcVISARGAcVIRAMA",
  "11640cARDHACANDRAbDANDAbDOUBLE DANDAbABBREVIATION SIGNbSIGN HUVA",
  "11650bDIGIT ZEROcONEcTWOcTHREEcFOURcFIVEcSIXcSEVENcEIGHTcNINE",
  "11660aMONGOLIAN BIRGA WITH ORNAMENTbROTATED BIRGAbDOUBLE BIRGA WITH ORNAMENT",
  "11663bTRIPLE BIRGA WITH ORNAMENTbBIRGA WITH DOUBLE ORNAMENTbROTATED BIRGA WITH ORNAMENT",
  "11666eDOUBLE ORNAMENTbINVERTED BIRGAdWITH DOUBLE ORNAMENTbSWIRL BIRGAdWITH ORNAMENT",
  "1166BeDOUBLE ORNAMENTbTURNED SWIRL BIRGA WITH DOUBLE ORNAMENT",
  "11680aTAKRI LETTER AcAAcIcIIcUcUUcEcAIcOcAUcKAcKHAcGAcGHAcNGAcCAcCHAcJAcJHAcNYAcTTAcTTHAcDDA",
  "11697cDDHAcNNAcTAcTHAcDAcDHAcNAcPAcPHAcBAcBHAcMAcYAcRAcLAcVAcSHAcSAcHAcRRAbSIGN ANUSVARA",
  "116ACcVISARGAbVOWEL SIGN AAdIdIIdUdUUdEdAIdOdAUbSIGN VIRAMAcNUKTAbLETTER ARCHAIC KHA",
  "116B9bABBREVIATION SIGN",
  "116C0bDIGIT ZEROcONEcTWOcTHREEcFOURcFIVEcSIXcSEVENcEIGHTcNINE",
  "11700aAHOM LETTER KAcKHAcNGAcNAcTAcALTERNATE TAcPAcPHAcBAcMAcJAcCHAcTHAcRAcLAcSAcNYAcHAcAcDA",
  "11714cDHAcGAcALTERNATE GAcGHAcBHAcJHAcALTERNATE BA",
  "1171DbCONSONANT SIGN MEDIAL LAeRAeLIGATING RAbVOWEL SIGN AdAAdIdIIdUdUUdEdAWdOdAIdAM",
  "1172BbSIGN KILLER",
  "11730bDIGIT ZEROcONEcTWOcTHREEcFOURcFIVEcSIXcSEVENcEIGHTcNINEbNUMBER TENcTWENTY",
  "1173CbSIGN SMALL SECTIONcSECTIONcRULAIbSYMBOL VIbLETTER CAcTTAcTTHAcDDAcDDHAcNNAcLLA",
  "11800aDOGRA LETTER AcAAcIcIIcUcUUcEcAIcOcAUcKAcKHAcGAcGHAcNGAcCAcCHAcJAcJHAcNYAcTTAcTTHAcDDA",
  "11817cDDHAcNNAcTAcTHAcDAcDHAcNAcPAcPHAcBAcBHAcMAcYAcRAcLAcVAcSHAcSSAcSAcHAcRRAbVOWEL SIGN AA",
  "1182DdIdIIdUdUUdVOCALIC ReRRdEdAIdOdAUbSIGN ANUSVARAcVISARGAcVIRAMAcNUKTAbABBREVIATION SIGN",
  "118A0aWARANG CITI CAPITAL LETTER NGAAeAeWIeYUeYAeYOeIIeUUeEeOeANGeGAeKOeENYeYUJeUCeENNeODD",
  "118B2eTTEeNUNGeDAeATeAMeBUePUeHIYOeHOLOeHORReHAReSSUUeSIIeVIYOcSMALL LETTER NGAAeAeWIeYUeYA",
  "118C5eYOeIIeUUeEeOeANGeGAeKOeENYeYUJeUCeENNeODDeTTEeNUNGeDAeATeAMeBUePUeHIYOeHOLOeHORReHAR",
  "118DDeSSUUeSIIeVIYOcDIGIT ZEROdONEdTWOdTHREEdFOURdFIVEdSIXdSEVENdEIGHTdNINEcNUMBER TEN",
  "118EBdTWENTYdTHIRTYdFORTYdFIFTYdSIXTYdSEVENTYdEIGHTYdNINETY",
  "118FFcOMaDIVES AKURU LETTER AdAAdIdIIdUdUUdE",
  "11909dO",
  "1190CdKAdKHAdGAdGHAdNGAdCAdCHAdJA",
  "11915dNYAdTTA",
  "11918dDDAdDDHAdNNAdTAdTHAdDAdDHAdNAdPAdPHAdBAdBHAdMAdYAdYYAdRAdLAdVAdSHAdSSAdSAdHAdLLAdZA",
  "11930cVOWEL SIGN AAeIeIIeUeUUeE",
  "11937eAIeO",
  "1193BcSIGN ANUSVARAdCANDRABINDUdHALANTAcVIRAMAcPREFIXED NASAL SIGNcMEDIAL YAcINITIAL RA",
  "11942cMEDIAL RAcSIGN NUKTAcDOUBLE DANDAcGAP FILLERcEND OF TEXT MARK",
  "11950cDIGIT ZEROdONEdTWOdTHREEdFOURdFIVEdSIXdSEVENdEIGHTdNINE",
  "119A0aNANDINAGARI LETTER AcAAcIcIIcUcUUcVOCALIC RdRR",
  "119AAcEcAIcOcAUcKAcKHAcGAcGHAcNGAcCAcCHAcJAcJHAcNYAcTTAcTTHAcDDAcDDHAcNNAcTAcTHAcDAcDHAcNA",
  "119C2cPAcPHAcBAcBHAcMAcYAcRAcLAcVAcSHAcSSAcSAcHAcLLAcRRAbVOWEL SIGN AAdIdIIdUdUUdVOCALIC R",
  "119D7eRR",
  "119DAdEdAIdOdAUbSIGN ANUSVARAcVISARGAcVIRAMAcAVAGRAHAcSIDDHAMbHEADSTROKE",
  "119E4bVOWEL SIGN PRISHTHAMATRA E",
  "11A00aZANABAZAR SQUARE LETTER AcVOWEL SIGN IeUEeUeEeOEeOeAIeAUeREVERSED IdLENGTH MARK",
  "11A0BcLETTER KAdKHAdGAdGHAdNGAdCAdCHAdJAdNYAdTTAdTTHAdDDAdDDHAdNNAdTAdTHAdDAdDHAdNAdPAdPHA",
  "11A20dBAdBHAdMAdTSAdTSHAdDZAdDZHAdZHAdZAd-AdYAdRAdLAdVAdSHAdSSAdSAdHAdKSSA",
  "11A33cFINAL CONSONANT MARKcSIGN VIRAMAdCANDRABINDUeWITH ORNAMENTdCANDRA WITH ORNAMENT",
  "11A38dANUSVARAdVISARGAcCLUSTER-INITIAL LETTER RAcCLUSTER-FINAL LETTER YAeRAeLAeVA",
  "11A3FcINITIAL HEAD MARKcCLOSING HEAD MARKcMARK TSHEGdSHADdDOUBLE SHADdLONG TSHEG",
  "11A45cINITIAL DOUBLE-LINED HEAD MARKcCLOSING DOUBLE-LINED HEAD MARKcSUBJOINER",
  "11A50aSOYOMBO LETTER AbVOWEL SIGN IdUEdUdEdOdOEdAIdAUdVOCALIC ReLcLENGTH MARKbLETTER KAcKHA",
  "11A5EcGAcGHAcNGAcCAcCHAcJAcJHAcNYAcTTAcTTHAcDDAcDDHAcNNAcTAcTHAcDAcDHAcNAcPAcPHAcBAcBHAcMA",
  "11A75cTSAcTSHAcDZAcZHAcZAc-AcYAcRAcLAcVAcSHAcSSAcSAcHAcKSSAbSIGN JIHVAMULIYAcUPADHMANIYA",
  "11A86bCLUSTER-INITIAL LETTER RAdLAdSHAdSAbFINAL CONSONANT SIGN GeKeNGeDeNeBeMeReLeSHeSe-A",
  "11A96bSIGN ANUSVARAcVISARGAbGEMINATION MARKbSUBJOINERbMARK TSHEGcSHADcDOUBLE SHADcPLUTA",
  "11A9EbHEAD MARK WITH MOON AND SUN AND TRIPLE FLAMEiFLAMEhbTERMINAL MARK-1cMARK-2",
  "11AB0aCANADIAN SYLLABICS NATTILIK HIdHIIdHOdHOOdHAdHAAdSHRIdSHRIIdSHROdSHROOdSHRAdSHRAAcSPE",
  "11ABDcSPIcSPOcSPAaPAU CIN HAU LETTER PAeKAeLAeMAeDAeZAeVAeNGAeHAeGAeKHAeSAeBAeCAeTAeTHAeNA",
  "11AD1ePHAeRAeFAeCHAeAeEeIeOeUeUAeIAeFINAL PfKfTfMfNfLfWfNGfYdRISING TONE LONGf",
  "11AE7dSANDHI GLOTTAL STOPdRISING TONE LONG FINALfFINALdSANDHI GLOTTAL STOP FINALeTONE LONGf",
  "11AEDfLONG FINALfFINALdMID-LEVEL TONEdGLOTTAL STOP VARIANTdMID-LEVEL TONE LONG FINALfFINAL",
  "11AF3dLOW-FALLING TONE LONGfdGLOTTAL STOPdLOW-FALLING TONE LONG FINALfFINAL",
  "11AF8dGLOTTAL STOP FINAL",
  "11C00aBHAIKSUKI LETTER AcAAcIcIIcUcUUcVOCALIC RdRRdL",
  "11C0AcEcAIcOcAUcKAcKHAcGAcGHAcNGAcCAcCHAcJAcJHAcNYAcTTAcTTHAcDDAcDDHAcNNAcTAcTHAcDAcDHAcNA",
  "11C22cPAcPHAcBAcBHAcMAcYAcRAcLAcVAcSHAcSSAcSAcHAbVOWEL SIGN AAdIdIIdUdUUdVOCALIC ReRReL",
  "11C38dEdAIdOdAUbSIGN CANDRABINDUcANUSVARAcVISARGAcVIRAMAcAVAGRAHAbDANDAbDOUBLE DANDA",
  "11C43bWORD SEPARATORbGAP FILLER-1cFILLER-2",
  "11C50bDIGIT ZEROcONEcTWOcTHREEcFOURcFIVEcSIXcSEVENcEIGHTcNINEbNUMBER ONEcTWOcTHREEcFOURcFIVE",
  "11C5FcSIXcSEVENcEIGHTcNINEcTENcTWENTYcTHIRTYcFORTYcFIFTYcSIXTYcSEVENTYcEIGHTYcNINETY",
  "11C6CbHUNDREDS UNIT MARK",
  "11C70aMARCHEN HEAD MARKbMARK SHADbLETTER KAcKHAcGAcNGAcCAcCHAcJAcNYAcTAcTHAcDAcNAcPAcPHAcBA",
  "11C81cMAcTSAcTSHAcDZAcWAcZHAcZAc-AcYAcRAcLAcSHAcSAcHAcA",
  "11C92bSUBJOINED LETTER KAdKHAdGAdNGAdCAdCHAdJAdNYAdTAdTHAdDAdNAdPAdPHAdBAdMAdTSAdTSHAdDZAdWA",
  "11CA6dZHAdZA",
  "11CA9dYAdRAdLAdSHAdSAdHAdAbVOWEL SIGN AAdIdUdEdObSIGN ANUSVARAcCANDRABINDU",
  "11D00aMASARAM GONDI LETTER AdAAdIdIIdUdUUdE",
  "11D08dAIdO",
  "11D0BdAUdKAdKHAdGAdGHAdNGAdCAdCHAdJAdJHAdNYAdTTAdTTHAdDDAdDDHAdNNAdTAdTHAdDAdDHAdNAdPAdPHA",
  "11D22dBAdBHAdMAdYAdRAdLAdVAdSHAdSSAdSAdHAdLLAdKSSAdJNYAdTRAcVOWEL SIGN AAeIeIIeUeUU",
  "11D36eVOCALIC R",
  "11D3AeE",
  "11D3CeAIeO",
  "11D3FeAUcSIGN ANUSVARAdVISARGAdNUKTAdCANDRAdHALANTAcVIRAMAcREPHAcRA-KARA",
  "11D50cDIGIT ZEROdONEdTWOdTHREEdFOURdFIVEdSIXdSEVENdEIGHTdNINE",
  "11D60aGUNJALA GONDI LETTER AdAAdIdIIdUdUU",
  "11D67dEEdAI",
  "11D6AdOOdAUdYAdVAdBAdBHAdMAdKAdKHAdTAdTHAdLAdGAdGHAdDAdDHAdNAdCAdCHAdTTAdTTHAdLLAdJAdJHAdDDA",
  "11D83dDDHAdNGAdPAdPHAdHAdRAdSAcVOWEL SIGN AAeIeIIeUeUU",
  "11D90eEEeAI",
  "11D93eOOeAUcSIGN ANUSVARAdVISARGAcVIRAMAcOM",
  "11DA0cDIGIT ZEROdONEdTWOdTHREEdFOURdFIVEdSIXdSEVENdEIGHTdNINE",
  "11EE0aMAKASAR LETTER KAcGAcNGAcPAcBAcMAcTAcDAcNAcCAcJAcNYAcYAcRAcLAcVAcSAcAbANGKA",
  "11EF3bVOWEL SIGN IdUdEdObPASSIMBANGbEND OF SECTION",
  "11FB0aLISU LETTER YHA",
  "11FC0aTAMIL FRACTION ONE THREE-HUNDRED-AND-TWENTIETHdONE-HUNDRED-AND-SIXTIETHdEIGHTIETH",
  "11FC3dSIXTY-FOURTHdFORTIETHdTHIRTY-SECONDcTHREE EIGHTIETHSdSIXTY-FOURTHScONE TWENTIETH",
  "11FC9dSIXTEENTH-1dSIXTEENTH-2dTENTHdEIGHTHcTHREE TWENTIETHSdSIXTEENTHScONE FIFTHdQUARTER",
  "11FD1dHALF-1dHALF-2cTHREE QUARTERScDOWNSCALING FACTOR KIIZHbSIGN NELcCEVITUcAAZHAAKKU",
  "11FD8cUZHAKKUcMUUVUZHAKKUcKURUNIcPATHAKKUcMUKKURUNIcKAACUcPANAMcPONcVARAAKANcPAARAMcKUZHI",
  "11FE3cVELIbWET CULTIVATION SIGNbDRY CULTIVATION SIGNbLAND SIGNbSALT PAN SIGN",
  "11FE8bTRADITIONAL CREDIT SIGNcNUMBER SIGNbCURRENT SIGNbAND ODD SIGNbSPENT SIGNbTOTAL SIGN",
  "11FEEbIN POSSESSION SIGNbSTARTING FROM SIGNbSIGN MUTHALIYAcVAKAIYARAA",
  "11FFFbPUNCTUATION END OF TEXTaCUNEIFORM SIGN AdTIMES AeBADeGAN2 TENUeHAeIGIeLAGAR GUNUeMUSH",
  "12008eSAGcA2cABdTIMES ASH2eDUN3 GUNUeGALeGAN2 TENUeHAeIGI GUNUeIMINeLAGABeSHESH",
  "12014eU PLUS U PLUS UdGUNUcAB2dTIMES BALAGeGAN2 TENUeME PLUS ENeSHA3eTAK4cADcAKdTIMES ERIN2",
  "1201FeSHITA PLUS GISHcALdTIMES ALeDIM2eGISHeHAeKAD3eKIeSHEeUSHcALANcALEPHcAMARdTIMES SHEcAN",
  "1202EdOVER ANdTHREE TIMESdPLUS NAGA OPPOSING AN PLUS NAGAfSQUAREDcANSHEcAPINcARADdTIMES KUR",
  "12036cARKABcASAL2cASHdZIDA TENUdKABA TENUdOVER ASH TUG2 OVER TUG2 TUG2 OVER TUG2 PAP",
  "1203CfOVER ASHhCROSSING ASH OVER ASH OVER ASHcASH2cASHGABcBAcBADcBAG3cBAHAR2cBALdOVER BAL",
  "12046cBALAGcBARcBARA2cBIdTIMES AeGAReIGI GUNUcBUdOVER BU ABfUNdCROSSING BUcBULUGdOVER BULUG",
  "12053cBURcBUR2cDAcDAGdKISIM5 TIMES A PLUS MASHfAMARfBALAGfBIfGAgPLUS MASHfGIfGIR2fGUDfHAfIR",
  "12062gPLUS LUfKAKfLAfLUgPLUS MASH2fLUMfNEfPAP PLUS PAPfSIfTAK4fU2 PLUS GIR2fUSHcDAMcDAR",
  "12070cDARA3cDARA4cDIcDIBcDIMdTIMES SHEcDIM2cDINdKASKAL U GUNU DISHcDISHcDUdOVER DUdGUNU",
  "1207DdSHESHIGcDUBdTIMES ESH2cDUB2cDUGcDUGUDcDUHcDUNcDUN3dGUNUeGUNUcDUN4cDUR2cEdTIMES PAP",
  "1208CdOVER E NUN OVER NUNcE2dTIMES A PLUS HA PLUS DAeGAReMIeSALeSHEeUcEDINcEGIRcELcEN",
  "12098dTIMES GAN2fTENUeMEdCROSSING ENdOPPOSING ENdSQUAREDcERENcERIN2cESH2cEZENdTIMES A",
  "120A3fPLUS LALhTIMES LALeANeBADeDUN3 GUNUgGUNUeHAfGUNUeIGI GUNUeKASKALfSQUAREDeKU3eLA",
  "120B0eLAL TIMES LALeLIeLUeU2eUDcGAdGUNUcGA2dTIMES A PLUS DA PLUS HAgHAgIGIeAB2 TENU PLUS TAB",
  "120BCeANeASHeASH2 PLUS GALeBADeBAR PLUS RAeBURfPLUS RAeDAeDIeDIM TIMES SHEeDUBeELfPLUS LAeEN",
  "120CAfTIMES GAN2 TENUeGAN2 TENUeGAReGIeGI4fPLUS AeGIR2 PLUS SUeHA PLUS LU PLUS ESH2eHAL",
  "120D3fPLUS LAeHI PLUS LIeHUB2eIGI GUNUeISH PLUS HU PLUS ASHeKAKeKASKALeKIDfPLUS LAL",
  "120DCeKU3 PLUS ANeLAeME PLUS ENeMIeNUNfOVER NUNePAeSALeSAReSHEfPLUS TUReSHIDeSUMeTAK4eUeUD",
  "120ECfPLUS DUdOVER GA2cGABAdCROSSING GABAcGADdOVER GAD GAR OVER GARcGAL",
  "120F3dGAD OVER GAD GAR OVER GARcGALAMcGAMcGANcGAN2dTENUdOVER GAN2dCROSSING GAN2cGARcGAR3",
  "120FDcGASHANcGESHTINdTIMES KURcGIdTIMES EeUdCROSSING GIcGI4dOVER GI4dCROSSING GI4cGIDIMcGIR2",
  "12109dGUNUcGIR3dTIMES A PLUS IGIeGAN2 TENUeIGIeLU PLUS IGIePAcGISALcGISHdCROSSING GISH",
  "12113dTIMES BADeTAK4dTENUcGUdCROSSING GUcGU2dTIMES KAKfTIMES IGI GUNUeNUNeSAL PLUS TUG2dGUNU",
  "1211EcGUDdTIMES A PLUS KUReKURdOVER GUD LUGALcGULcGUMdTIMES SHEcGURcGUR7cGURUNcGURUSHcHA",
  "1212AdTENUdGUNUcHALcHIdTIMES ASHeASH2eBADeDISHeGADeKINeNUNeSHEeUcHUcHUB2dTIMES ANeHALeKASKAL",
  "1213CeLISHeUDcHUL2cIdAcIBcIDIMdOVER IDIM BURfSQUAREDcIGcIGIdDIBdRI",
  "12149dOVER IGI SHIR OVER SHIR UD OVER UDdGUNUcILdTIMES GAN2 TENUcIL2cIMdTIMES TAK4",
  "12150dCROSSING IMdOPPOSING IMdSQUAREDcIMINcINcIRcISHcKAdTIMES AeADfPLUS KU3eASH2eBADeBALAG",
  "1215EeBAReBIeERIN2eESH2eGAeGALeGAN2 TENUeGARfPLUS SHA3 PLUS AeGIeGIR2eGISH PLUS SAR",
  "1216AfCROSSING GISHeGUeGUR7eIGIeIMeKAKeKIeKIDeLIeLUeMEfPLUS DUgGIgTEeMIfPLUS NUNUZeNEeNUNePI",
  "1217DeRUeSAeSAReSHAeSHEeSHIDeSHUeSIGeSUHUReTAReUeU2eUDeUMUM TIMES PAeUSHeZIcKA2dCROSSING KA2",
  "1218FcKABcKAD2cKAD3cKAD4cKAD5dOVER KAD5cKAKdTIMES IGI GUNUcKALdTIMES BADdCROSSING KALcKAM2",
  "1219BcKAM4cKASKALdLAGAB TIMES U OVER LAGAB TIMES U",
  "1219EdOVER KASKAL LAGAB TIMES U OVER LAGAB TIMES UcKESH2cKIdTIMES BADeUeUDcKIDcKINcKISAL",
  "121A7cKISHcKISIM5dOVER KISIM5cKUdOVER HI TIMES ASH2 KU OVER HI TIMES ASH2cKU3cKU4",
  "121AEdVARIANT FORMcKU7cKULdGUNUcKUNcKURdOPPOSING KURcKUSHU2cKWU318cLAcLAGABdTIMES A",
  "121BAfPLUS DA PLUS HAgGARgLALeALeANeASH ZIDA TENUeBADeBIeDAReENeGAeGAReGUDfPLUS GUDeHAeHAL",
  "121CAeHI TIMES NUNeIGI GUNUeIMfPLUS HAgLUeKIeKINeKU3eKULfPLUS HI PLUS AeLAGABeLISHeLUeLULeME",
  "121D9fPLUS ENeMUSHeNEeSHE PLUS SUMeSHITA PLUS GISH PLUS ERIN2hTENUeSHU2fPLUS SHU2eSUMeTAG",
  "121E3eTAK4eTE PLUS A PLUS SU PLUS NAeUfPLUS AgU PLUS UeU2 PLUS ASHeUDeUSHdSQUAREDcLAGAR",
  "121EDdTIMES SHEfPLUS SUMdGUNUeOVER LAGAR GUNU SHEcLAHSHUcLALdTIMES LALcLAMdTIMES KURfPLUS RU",
  "121F7cLIcLILcLIMMU2cLISHcLUdTIMES BADcLU2dTIMES ALeBADeESH2fTENUeGAN2 TENUeHI TIMES BADeIM",
  "12205eKAD2eKAD3fPLUS ASHeKIeLA PLUS ASHeLAGABeME PLUS ENeNEeNUeSI PLUS ASHeSIK2 PLUS BUeTUG2",
  "12211dTENUdCROSSING LU2dOPPOSING LU2dSQUAREDdSHESHIGcLU3cLUGALdOVER LUGALdOPPOSING LUGAL",
  "1221AdSHESHIGcLUHcLULcLUMdOVER LUMfGAR OVER GARcMAdTIMES TAK4dGUNUcMA2cMAHcMARcMASHcMASH2cME",
  "12229cMEScMIcMINcMUdOVER MUcMUGdGUNUcMUNSUBcMURGU2cMUSHdTIMES AeKUReZAdOVER MUSH",
  "12237fTIMES A PLUS NAdCROSSING MUSHcMUSH3dTIMES AfPLUS DIeDIdGUNUcNAcNA2cNAGAdINVERTED",
  "12242dTIMES SHU TENUdOPPOSING NAGAcNAGARcNAM NUTILLUdcNAM2cNEdTIMES AeUDdSHESHIGcNIdTIMES E",
  "1224EcNI2cNIMdTIMES GAN2 TENUeGAR PLUS GAN2 TENUcNINDA2dTIMES ANeASHfPLUS ASHeGUD",
  "12257eME PLUS GAN2 TENUeNEeNUNeSHEfPLUS A ANgASHhPLUS ASHeU2 PLUS ASHeUSHcNISAGcNUcNU11cNUN",
  "12264dLAGAR TIMES GARfMASHfSALgOVER NUN LAGAR TIMES SALfUSHdTENUdOVER NUNdCROSSING NUN",
  "1226CfLAGAR OVER LAGARcNUNUZdAB2 TIMES ASHGABfBIfDUGfGUDfIGI GUNUfKAD3fLAfNEfSILA3fU2",
  "12278dKISIM5 TIMES BIgUcPAcPADcPANcPAPcPESH2cPIdTIMES AeABeBIeBUeEeIeIBeUeU2dCROSSING PI",
  "1228AcPIRIGdTIMES KALeUDeZAdOPPOSING PIRIGcRAcRABcRIcRUcSAcSAG NUTILLUddTIMES AeDUeDUBeHA",
  "1229AeKAKeKUReLUMeMIeNUNeSALeSHIDeTABeU2eUBeUMeUReUSHdOVER SAGdGUNUcSALdLAGAB TIMES ASH2",
  "122ABcSANGA2cSARcSHAcSHA3dTIMES AeBADeGISHeNEeSHU2eTUReUfPLUS AcSHA6cSHAB6cSHAR2cSHEdHU",
  "122BCdOVER SHE GAD OVER GAD GAR OVER GARfTAB OVER TAB GAR OVER GARcSHEG9cSHENcSHESHcSHESH2",
  "122C2cSHESHLAMcSHIDdTIMES AeIMcSHIMdTIMES AeBALeBULUGeDINeGAReIGIfGUNUeKUSHU2eLULeMUGeSAL",
  "122D2cSHINIGcSHIRdTENUdOVER SHIR BUR OVER BURcSHITAcSHUdOVER INVERTED SHUcSHU2cSHUBURcSI",
  "122DCdGUNUcSIGcSIG4dOVER SIG4 SHU2cSIK2cSILA3cSUdOVER SUcSUDcSUD2cSUHURcSUMcSUMASHcSURcSUR9",
  "122EBcTAdASTERISKdTIMES HIeMIdGUNUcTABdOVER TAB NI OVER NI DISH OVER DISHdSQUAREDcTAG",
  "122F4dTIMES BIeGUDeSHEeSHUeTUG2eUDcTAK4cTARcTEdGUNUcTIdTENUcTILcTIRdTIMES TAK4dOVER TIR",
  "12304fGAD OVER GAD GAR OVER GARcTUcTUG2cTUKcTUMcTURdOVER TUR ZA OVER ZAcUdGUDdU U",
  "1230EdOVER U PA OVER PA GAR OVER GARfSUR OVER SURfU REVERSED OVER U REVERSEDcU2cUBcUDdKUSHU2",
  "12315dTIMES BADeMIeU PLUS U PLUS UjGUNUdGUNUdSHESHIGeTIMES BADcUDUGcUMdTIMES LAGAB",
  "1231FeME PLUS DAeSHA3eUcUMBINcUMUMdTIMES KASKALePAcUNdGUNUcURdCROSSING URdSHESHIGcUR2",
  "1232CdTIMES A PLUS HAgNAeALeHAeNUNeU2fPLUS ASHgBIcUR4cURIcURI3cURUdTIMES AeASHGABeBAReDUNeGA",
  "1233DeGALeGAN2 TENUeGAReGUeHAeIGIeIMeISHeKIeLUMeMINePAeSHEeSIG4eTUeU PLUS GUDeUDeURUDAcURUDA",
  "12350dTIMES UcUSHdTIMES AeKUeKUReTAK4cUSHXcUSH2cUSHUMXcUTUKIcUZ3dTIMES KASKALcUZUcZAdTENU",
  "1235FdSQUARED TIMES KURcZAGcZAMXcZE2cZIdOVER ZIcZI3cZIBdKABA TENUcZIGcZIZ2cZUcZU5dTIMES A",
  "1236DcZUBURcZUMcKAP ELAMITEcAB TIMES NUNcAB2 TIMES AcAMAR TIMES KUG",
  "12373cDAG KISIM5 TIMES U2 PLUS MASHcDAG3cDISH PLUS SHUcDUB TIMES SHEcEZEN TIMES GUDeSHE",
  "12379cGA2 TIMES AN PLUS KAK PLUS AeASH2cGE22cGIGcHUSHcKA TIMES ANSHEeASH3eGISHeGUD",
  "12382eHI TIMES ASH2eLUMePAeSHULeTUeUR2cLAGAB TIMES GIcLU2 SHESHIG TIMES BAD",
  "1238AdTIMES ESH2 PLUS LALeSHUcMESHcMUSH3 TIMES ZAcNA4cNINcNIN9cNINDA2 TIMES BALeGI",
  "12393cNU11 ROTATED NINETY DEGREEScPESH2 ASTERISKcPIR2cSAG TIMES IGI GUNUcTI2cUM TIMES MEcU U",
  "12400bNUMERIC SIGN TWO ASHdTHREE ASHdFOUR ASHdFIVE ASHdSIX ASHdSEVEN ASHdEIGHT ASHdNINE ASH",
  "12408dTHREE DISHdFOUR DISHdFIVE DISHdSIX DISHdSEVEN DISHdEIGHT DISHdNINE DISHdFOUR UdFIVE U",
  "12411dSIX UdSEVEN UdEIGHT UdNINE UdONE GESH2dTWO GESH2dTHREE GESH2dFOUR GESH2dFIVE GESH2",
  "1241AdSIX GESH2dSEVEN GESH2dEIGHT GESH2dNINE GESH2dONE GESHUdTWO GESHUdTHREE GESHU",
  "12421dFOUR GESHUdFIVE GESHUdTWO SHAR2dTHREE SHAR2fVARIANT FORMdFOUR SHAR2dFIVE SHAR2",
  "12428dSIX SHAR2dSEVEN SHAR2dEIGHT SHAR2dNINE SHAR2dONE SHARUdTWO SHARUdTHREE SHARU",
  "1242FfVARIANT FORMdFOUR SHARUdFIVE SHARUdSHAR2 TIMES GAL PLUS DISHhMINdONE BURUdTWO BURU",
  "12436dTHREE BURUfVARIANT FORMdFOUR BURUdFIVE BURUdTHREE VARIANT FORM ESH16gESH21",
  "1243CdFOUR VARIANT FORM LIMMUgLIMMU4gLIMMU AhBdSIX VARIANT FORM ASH9",
  "12441dSEVEN VARIANT FORM IMIN3gIMIN AhBdEIGHT VARIANT FORM USSUgUSSU3",
  "12446dNINE VARIANT FORM ILIMMUgILIMMU3gILIMMU4gILIMMU AdTWO ASH TENUdTHREE ASH TENU",
  "1244CdFOUR ASH TENUdFIVE ASH TENUdSIX ASH TENUdONE BAN2dTWO BAN2dTHREE BAN2dFOUR BAN2",
  "12453fVARIANT FORMdFIVE BAN2fVARIANT FORMdNIGIDAMINdNIGIDAESHdONE ESHE3dTWO ESHE3",
  "1245AdONE THIRD DISHdTWO THIRDS DISHdFIVE SIXTHS DISHdONE THIRD VARIANT FORM A",
  "1245EdTWO THIRDS VARIANT FORM AdONE EIGHTH ASHeQUARTER ASHdOLD ASSYRIAN ONE SIXTHgQUARTER",
  "12463dONE QUARTER GUReHALF GURdELAMITE ONE THIRDeTWO THIRDSeFORTYeFIFTYdFOUR U VARIANT FORM",
  "1246AdFIVE U VARIANT FORMdSIX U VARIANT FORMdSEVEN U VARIANT FORMdEIGHT U VARIANT FORM",
  "1246EdNINE U VARIANT FORM",
  "12470bPUNCTUATION SIGN OLD ASSYRIAN WORD DIVIDERdVERTICAL COLONdDIAGONAL COLONeTRICOLON",
  "12474eQUADCOLON",
  "12480bSIGN AB TIMES NUN TENUeSHU2cAD TIMES ESH2cBAD TIMES DISH TENUcBAHAR2 TIMES AB2eNIeZA",
  "12487cBU OVER BU TIMES NA2cDA TIMES TAK4cDAG TIMES KURcDIM TIMES IGIeU U UcDIM2 TIMES UD",
  "1248DcDUG TIMES ANSHEeASHfAT LEFTeDINeDUNeERIN2eGAeGIeGIR2 GUNUeGISHeHAeHIeIGI GUNUeKASKAL",
  "1249BeKUReKUSHU2fPLUS KASKALeLAK-020eLAMfTIMES KUReLUH PLUS GISHeMASHeMESeMIeNIePIeSHE",
  "124A8eSI GUNUcE2 TIMES KURePAPcERIN2 XcESH2 CROSSING ESH2cEZEN SHESHIG TIMES ASHfHIfIGI GUNU",
  "124B0fLAfLALfMEfMESfSUdTIMES SUcGA2 TIMES BAHAR2eDIM GUNUeDUG TIMES IGI GUNUgKASKALeERENeGA",
  "124BCeGAR PLUS DIgNEeHA PLUS AeKUSHU2 PLUS KASKALeLAMfTIMES KUReLUHeMUSHeNEfPLUS E2gGIeSHIM",
  "124C8eZIZ2cGABA ROTATED NINETY DEGREEScGESHTIN TIMES UcGISH TIMES GISH CROSSING GISH",
  "124CCcGU2 TIMES IGI GUNUcGUD PLUS GISH TIMES TAK4cHA TENU GUNU",
  "124CFcHI TIMES ASH OVER HI TIMES ASHcKA TIMES BUeKAeU U UeURcLAGAB TIMES ZU OVER ZUcLAK-003",
  "124D6cLAK-021cLAK-025cLAK-030cLAK-050cLAK-051cLAK-062cLAK-079 OVER LAK-079 GUNUcLAK-080",
  "124DEcLAK-081 OVER LAK-081cLAK-092cLAK-130cLAK-142cLAK-210cLAK-219cLAK-220cLAK-225cLAK-228",
  "124E7cLAK-238cLAK-265cLAK-266cLAK-343cLAK-347cLAK-348cLAK-383cLAK-384cLAK-390cLAK-441",
  "124F1cLAK-449dTIMES GUeIGIePAP PLUS LU3gPAP PLUS LU3eU2 PLUS BAcLAK-450cLAK-457cLAK-470",
  "124FAcLAK-483cLAK-490cLAK-492cLAK-493cLAK-495cLAK-550cLAK-608cLAK-617dTIMES ASHeBAD",
  "12504eDUN3 GUNU GUNUeKU3eLAeTAReTEeU2eUDeURUDAcLAK-636cLAK-648dTIMES DUBeGAeIGIfGUNUeNI",
  "12513ePAP PLUS PAP PLUS LU3eSHESH PLUS KIeUDeURUDAcLAK-724cLAK-749cLU2 GUNU TIMES ASH",
  "1251AdTIMES DISHeHALePAPfPLUS PAP PLUS LU3eTAK4cMI PLUS ZA7cMUSH OVER MUSH TIMES GAgKAK",
  "12522cNINDA2 TIMES DIM GUNUeGISHeGULeHIeKESH2eLAK-050eMASHePAP PLUS PAPeUfPLUS UeURUDA",
  "1252DcSAG GUNU TIMES HAdTIMES ENeSHE AT LEFTeTAK4cSHA6 TENUcSHE OVER SHEdPLUS HUB2eNAM2eSAR",
  "12536cSHU2 PLUS DUG TIMES NIeE2 TIMES ANcSI TIMES TAK4cTAK4 PLUS SAGcTUM TIMES GAN2 TENU",
  "1253BeTHREE DISHcUR2 INVERTEDdTIMES UDcURU TIMES DARA3eLAK-668eLU3cZA7cZU OVER ZU PLUS SAR",
  "12543cZU5 TIMES THREE DISH TENU",
  "12F90aCYPRO-MINOAN SIGN CM001cCM002cCM004cCM005cCM006cCM007cCM008cCM009cCM010cCM011cCM012",
  "12F9BcCM012BcCM013cCM015cCM017cCM019cCM021cCM023cCM024cCM025cCM026cCM027cCM028cCM029cCM030",
  "12FA9cCM033cCM034cCM035cCM036cCM037cCM038cCM039cCM040cCM041cCM044cCM046cCM047cCM049cCM050",
  "12FB7cCM051cCM052cCM053cCM054cCM055cCM056cCM058cCM059cCM060cCM061cCM062cCM063cCM064cCM066",
  "12FC5cCM067cCM068cCM069cCM070cCM071cCM072cCM073cCM074cCM075cCM075BcCM076cCM078cCM079cCM080",
  "12FD3cCM081cCM082cCM083cCM084cCM085cCM086cCM087cCM088cCM089cCM090cCM091cCM092cCM094cCM095",
  "12FE1cCM096cCM097cCM098cCM099cCM100cCM101cCM102cCM103cCM104cCM105cCM107cCM108cCM109cCM110",
  "12FEFcCM112cCM114cCM301cCM302",
  "13000aEGYPTIAN HIEROGLYPH A001cA002cA003cA004cA005cA005AcA006cA006AcA006BcA007cA008cA009",
  "1300CcA010cA011cA012cA013cA014cA014AcA015cA016cA017cA017AcA018cA019cA020cA021cA022cA023cA024",
  "1301DcA025cA026cA027cA028cA029cA030cA031cA032cA032AcA033cA034cA035cA036cA037cA038cA039cA040",
  "1302EcA040AcA041cA042cA042AcA043cA043AcA044cA045cA045AcA046cA047cA048cA049cA050cA051cA052",
  "1303EcA053cA054cA055cA056cA057cA058cA059cA060cA061cA062cA063cA064cA065cA066cA067cA068cA069",
  "1304FcA070cB001cB002cB003cB004cB005cB005AcB006cB007cB008cB009cC001cC002cC002AcC002BcC002C",
  "1305FcC003cC004cC005cC006cC007cC008cC009cC010cC010AcC011cC012cC013cC014cC015cC016cC017cC018",
  "13070cC019cC020cC021cC022cC023cC024cD001cD002cD003cD004cD005cD006cD007cD008cD008AcD009cD010",
  "13081cD011cD012cD013cD014cD015cD016cD017cD018cD019cD020cD021cD022cD023cD024cD025cD026cD027",
  "13092cD027AcD028cD029cD030cD031cD031AcD032cD033cD034cD034AcD035cD036cD037cD038cD039cD040",
  "130A2cD041cD042cD043cD044cD045cD046cD046AcD047cD048cD048AcD049cD050cD050AcD050BcD050CcD050D",
  "130B2cD050EcD050FcD050GcD050HcD050IcD051cD052cD052AcD053cD054cD054AcD055cD056cD057cD058cD059",
  "130C2cD060cD061cD062cD063cD064cD065cD066cD067cD067AcD067BcD067CcD067DcD067EcD067FcD067G",
  "130D1cD067HcE001cE002cE003cE004cE005cE006cE007cE008cE008AcE009cE009AcE010cE011cE012cE013",
  "130E1cE014cE015cE016cE016AcE017cE017AcE018cE019cE020cE020AcE021cE022cE023cE024cE025cE026",
  "130F1cE027cE028cE028AcE029cE030cE031cE032cE033cE034cE034AcE036cE037cE038cF001cF001AcF002",
  "13101cF003cF004cF005cF006cF007cF008cF009cF010cF011cF012cF013cF013AcF014cF015cF016cF017cF018",
  "13112cF019cF020cF021cF021AcF022cF023cF024cF025cF026cF027cF028cF029cF030cF031cF031AcF032cF033",
  "13123cF034cF035cF036cF037cF037AcF038cF038AcF039cF040cF041cF042cF043cF044cF045cF045AcF046",
  "13133cF046AcF047cF047AcF048cF049cF050cF051cF051AcF051BcF051CcF052cF053cG001cG002cG003cG004",
  "13143cG005cG006cG006AcG007cG007AcG007BcG008cG009cG010cG011cG011AcG012cG013cG014cG015cG016",
  "13153cG017cG018cG019cG020cG020AcG021cG022cG023cG024cG025cG026cG026AcG027cG028cG029cG030cG031",
  "13164cG032cG033cG034cG035cG036cG036AcG037cG037AcG038cG039cG040cG041cG042cG043cG043AcG044",
  "13174cG045cG045AcG046cG047cG048cG049cG050cG051cG052cG053cG054cH001cH002cH003cH004cH005cH006",
  "13185cH006AcH007cH008cI001cI002cI003cI004cI005cI005AcI006cI007cI008cI009cI009AcI010cI010A",
  "13195cI011cI011AcI012cI013cI014cI015cK001cK002cK003cK004cK005cK006cK007cK008cL001cL002cL002A",
  "131A6cL003cL004cL005cL006cL006AcL007cL008cM001cM001AcM001BcM002cM003cM003AcM004cM005cM006",
  "131B6cM007cM008cM009cM010cM010AcM011cM012cM012AcM012BcM012CcM012DcM012EcM012FcM012GcM012H",
  "131C5cM013cM014cM015cM015AcM016cM016AcM017cM017AcM018cM019cM020cM021cM022cM022AcM023cM024",
  "131D5cM024AcM025cM026cM027cM028cM028AcM029cM030cM031cM031AcM032cM033cM033AcM033BcM034cM035",
  "131E5cM036cM037cM038cM039cM040cM040AcM041cM042cM043cM044cN001cN002cN003cN004cN005cN006cN007",
  "131F6cN008cN009cN010cN011cN012cN013cN014cN015cN016cN017cN018cN018AcN018BcN019cN020cN021cN022",
  "13207cN023cN024cN025cN025AcN026cN027cN028cN029cN030cN031cN032cN033cN033AcN034cN034AcN035",
  "13217cN035AcN036cN037cN037AcN038cN039cN040cN041cN042cNL001cNL002cNL003cNL004cNL005cNL005A",
  "13226cNL006cNL007cNL008cNL009cNL010cNL011cNL012cNL013cNL014cNL015cNL016cNL017cNL017AcNL018",
  "13234cNL019cNL020cNU001cNU002cNU003cNU004cNU005cNU006cNU007cNU008cNU009cNU010cNU010AcNU011",
  "13242cNU011AcNU012cNU013cNU014cNU015cNU016cNU017cNU018cNU018AcNU019cNU020cNU021cNU022cNU022A",
  "13250cO001cO001AcO002cO003cO004cO005cO005AcO006cO006AcO006BcO006CcO006DcO006EcO006FcO007",
  "1325FcO008cO009cO010cO010AcO010BcO010CcO011cO012cO013cO014cO015cO016cO017cO018cO019cO019A",
  "1326FcO020cO020AcO021cO022cO023cO024cO024AcO025cO025AcO026cO027cO028cO029cO029AcO030cO030A",
  "1327FcO031cO032cO033cO033AcO034cO035cO036cO036AcO036BcO036CcO036DcO037cO038cO039cO040cO041",
  "1328FcO042cO043cO044cO045cO046cO047cO048cO049cO050cO050AcO050BcO051cP001cP001AcP002cP003",
  "1329FcP003AcP004cP005cP006cP007cP008cP009cP010cP011cQ001cQ002cQ003cQ004cQ005cQ006cQ007cR001",
  "132B0cR002cR002AcR003cR003AcR003BcR004cR005cR006cR007cR008cR009cR010cR010AcR011cR012cR013",
  "132C0cR014cR015cR016cR016AcR017cR018cR019cR020cR021cR022cR023cR024cR025cR026cR027cR028cR029",
  "132D1cS001cS002cS002AcS003cS004cS005cS006cS006AcS007cS008cS009cS010cS011cS012cS013cS014",
  "132E1cS014AcS014BcS015cS016cS017cS017AcS018cS019cS020cS021cS022cS023cS024cS025cS026cS026A",
  "132F1cS026BcS027cS028cS029cS030cS031cS032cS033cS034cS035cS035AcS036cS037cS038cS039cS040cS041",
  "13302cS042cS043cS044cS045cS046cT001cT002cT003cT003AcT004cT005cT006cT007cT007AcT008cT008A",
  "13312cT009cT009AcT010cT011cT011AcT012cT013cT014cT015cT016cT016AcT017cT018cT019cT020cT021",
  "13322cT022cT023cT024cT025cT026cT027cT028cT029cT030cT031cT032cT032AcT033cT033AcT034cT035cT036",
  "13333cU001cU002cU003cU004cU005cU006cU006AcU006BcU007cU008cU009cU010cU011cU012cU013cU014cU015",
  "13344cU016cU017cU018cU019cU020cU021cU022cU023cU023AcU024cU025cU026cU027cU028cU029cU029AcU030",
  "13355cU031cU032cU032AcU033cU034cU035cU036cU037cU038cU039cU040cU041cU042cV001cV001AcV001B",
  "13365cV001CcV001DcV001EcV001FcV001GcV001HcV001IcV002cV002AcV003cV004cV005cV006cV007cV007A",
  "13374cV007BcV008cV009cV010cV011cV011AcV011BcV011CcV012cV012AcV012BcV013cV014cV015cV016cV017",
  "13384cV018cV019cV020cV020AcV020BcV020CcV020DcV020EcV020FcV020GcV020HcV020IcV020JcV020KcV020L",
  "13393cV021cV022cV023cV023AcV024cV025cV026cV027cV028cV028AcV029cV029AcV030cV030AcV031cV031A",
  "133A3cV032cV033cV033AcV034cV035cV036cV037cV037AcV038cV039cV040cV040AcW001cW002cW003cW003A",
  "133B3cW004cW005cW006cW007cW008cW009cW009AcW010cW010AcW011cW012cW013cW014cW014AcW015cW016",
  "133C3cW017cW017AcW018cW018AcW019cW020cW021cW022cW023cW024cW024AcW025cX001cX002cX003cX004",
  "133D3cX004AcX004BcX005cX006cX006AcX007cX008cX008AcY001cY001AcY002cY003cY004cY005cY006cY007",
  "133E3cY008cZ001cZ002cZ002AcZ002BcZ002CcZ002DcZ003cZ003AcZ003BcZ004cZ004AcZ005cZ005AcZ006",
  "133F2cZ007cZ008cZ009cZ010cZ011cZ012cZ013cZ014cZ015cZ015AcZ015BcZ015CcZ015DcZ015EcZ015FcZ015G",
  "13402cZ015HcZ015IcZ016cZ016AcZ016BcZ016CcZ016DcZ016EcZ016FcZ016GcZ016HcAA001cAA002cAA003",
  "13410cAA004cAA005cAA006cAA007cAA007AcAA007BcAA008cAA009cAA010cAA011cAA012cAA013cAA014cAA015",
  "1341EcAA016cAA017cAA018cAA019cAA020cAA021cAA022cAA023cAA024cAA025cAA026cAA027cAA028cAA029",
  "1342CcAA030cAA031cAA032",
  "13430cVERTICAL JOINERcHORIZONTAL JOINERcINSERT AT TOP STARTeBOTTOM STARTeTOP ENDeBOTTOM END",
  "13436cOVERLAY MIDDLEcBEGIN SEGMENTcEND SEGMENT",
  "14400aANATOLIAN HIEROGLYPH A001cA002cA003cA004cA005cA006cA007cA008cA009cA010cA010AcA011cA012",
  "1440DcA013cA014cA015cA016cA017cA018cA019cA020cA021cA022cA023cA024cA025cA026cA026AcA027cA028",
  "1441EcA029cA030cA031cA032cA033cA034cA035cA036cA037cA038cA039cA039AcA040cA041cA041AcA042cA043",
  "1442FcA044cA045cA045AcA046cA046AcA046BcA047cA048cA049cA050cA051cA052cA053cA054cA055cA056",
  "1443FcA057cA058cA059cA060cA061cA062cA063cA064cA065cA066cA066AcA066BcA066CcA067cA068cA069",
  "1444FcA070cA071cA072cA073cA074cA075cA076cA077cA078cA079cA080cA081cA082cA083cA084cA085cA086",
  "14460cA087cA088cA089cA090cA091cA092cA093cA094cA095cA096cA097cA097AcA098cA098AcA099cA100",
  "14470cA100AcA101cA101AcA102cA102AcA103cA104cA104AcA104BcA104CcA105cA105AcA105BcA106cA107",
  "1447FcA107AcA107BcA107CcA108cA109cA110cA110AcA110BcA111cA112cA113cA114cA115cA115AcA116cA117",
  "1448FcA118cA119cA120cA121cA122cA123cA124cA125cA125AcA126cA127cA128cA129cA130cA131cA132cA133",
  "144A0cA134cA135cA135AcA136cA137cA138cA139cA140cA141cA142cA143cA144cA145cA146cA147cA148cA149",
  "144B1cA150cA151cA152cA153cA154cA155cA156cA157cA158cA159cA160cA161cA162cA163cA164cA165cA166",
  "144C2cA167cA168cA169cA170cA171cA172cA173cA174cA175cA176cA177cA178cA179cA180cA181cA182cA183",
  "144D3cA184cA185cA186cA187cA188cA189cA190cA191cA192cA193cA194cA195cA196cA197cA198cA199cA200",
  "144E4cA201cA202cA202AcA202BcA203cA204cA205cA206cA207cA207AcA208cA209cA209AcA210cA211cA212",
  "144F4cA213cA214cA215cA215AcA216cA216AcA217cA218cA219cA220cA221cA222cA223cA224cA225cA226cA227",
  "14505cA227AcA228cA229cA230cA231cA232cA233cA234cA235cA236cA237cA238cA239cA240cA241cA242cA243",
  "14516cA244cA245cA246cA247cA248cA249cA250cA251cA252cA253cA254cA255cA256cA257cA258cA259cA260",
  "14527cA261cA262cA263cA264cA265cA266cA267cA267AcA268cA269cA270cA271cA272cA273cA274cA275cA276",
  "14538cA277cA278cA279cA280cA281cA282cA283cA284cA285cA286cA287cA288cA289cA289AcA290cA291cA292",
  "14549cA293cA294cA294AcA295cA296cA297cA298cA299cA299AcA300cA301cA302cA303cA304cA305cA306cA307",
  "1455AcA308cA309cA309AcA310cA311cA312cA313cA314cA315cA316cA317cA318cA319cA320cA321cA322cA323",
  "1456BcA324cA325cA326cA327cA328cA329cA329AcA330cA331cA332AcA332BcA332CcA333cA334cA335cA336",
  "1457BcA336AcA336BcA336CcA337cA338cA339cA340cA341cA342cA343cA344cA345cA346cA347cA348cA349",
  "1458BcA350cA351cA352cA353cA354cA355cA356cA357cA358cA359cA359AcA360cA361cA362cA363cA364cA364A",
  "1459CcA365cA366cA367cA368cA368AcA369cA370cA371cA371AcA372cA373cA374cA375cA376cA377cA378cA379",
  "145ADcA380cA381cA381AcA382cA383 RA OR RIcA383AcA384cA385cA386cA386AcA387cA388cA389cA390cA391",
  "145BCcA392cA393 EIGHTcA394cA395cA396cA397cA398cA399cA400cA401cA402cA403cA404cA405cA406cA407",
  "145CCcA408cA409cA410 BEGIN LOGOGRAM MARKcA410A END LOGOGRAM MARKcA411cA412cA413cA414cA415",
  "145D5cA416cA417cA418cA419cA420cA421cA422cA423cA424cA425cA426cA427cA428cA429cA430cA431cA432",
  "145E6cA433cA434cA435cA436cA437cA438cA439cA440cA441cA442cA443cA444cA445cA446cA447cA448cA449",
  "145F7cA450cA450AcA451cA452cA453cA454cA455cA456cA457cA457AcA458cA459cA460cA461cA462cA463cA464",
  "14608cA465cA466cA467cA468cA469cA470cA471cA472cA473cA474cA475cA476cA477cA478cA479cA480cA481",
  "14619cA482cA483cA484cA485cA486cA487cA488cA489cA490cA491cA492cA493cA494cA495cA496cA497cA501",
  "1462AcA502cA503cA504cA505cA506cA507cA508cA509cA510cA511cA512cA513cA514cA515cA516cA517cA518",
  "1463BcA519cA520cA521cA522cA523cA524cA525cA526cA527cA528cA529cA530",
  "16800aBAMUM LETTER PHASE-A NGKUE MFONdGBIEE FONdPON MFON PIPAEMGBIEEfPIPAEMBAdNAA MFON",
  "16805dSHUENSHUETdTITA MFONdNZA MFONdSHINDA PA NJIdPON PA NJI PIPAEMGBIEEgPIPAEMBAdMAEMBGBIEE",
  "1680CdTU MAEMBAdNGANGUdMAEMVEUXdMANSUAEdMVEUAENGAMdSEUNYAMdNTOQPENdKEUKEUTNDAdNKINDIdSUU",
  "16816dNGKUENZEUMdLAPAQdLET KUTdNTAP MFAAdMAEKEUPdPASHAEdGHEUAERAEdPAMSHAEdMON NGGEUAET",
  "1681FdNZUN MEUTdU YUQ NAEdGHEUAEGHEUAEdNTAP NTAAdSISAdMGBASAdMEUNJOMNDEUQdMOOMPUQdKAFA",
  "16828dPA LEERAEWAdNDA LEERAEWAdPETdMAEMKPENdNIKAdPUPdTUAEPdLUAEPdSONJAMdTEUTEUWENdMAENYIdKET",
  "16834dNDAANGGEUAETdKUOQdMOOMEUTdSHUMdLOMMAEdFIRIdROMdKPOQdSOQdMAP PIEETdSHIRAEdNTAP",
  "16840dSHOQ NSHUT YUMdNYIT MONGKEUAEQdPAARAEdNKAARAEdUNKNOWNdNGGENdMAESIdNJAMdMBANYIdNYET",
  "1684AdTEUAENdSOTdPAAMdNSHIEEdMAEMdNYIdKAQdNSHAdVEEdLUdNENdNAQdMBAQcPHASE-B NSHUET",
  "16858dTU MAEMGBIEEdSIEEdSET TUdLOM NTEUMdMBA MAELEEdKIEEMdYEURAEdMBAARAEdKAMdPEESHI",
  "16862dYAFU LEERAEWAdLAM NSHUT NYAMdNTIEE SHEUOQdNDU NJAAdGHEUGHEUAEMdPITdTU NSIEEdSHET NJAQ",
  "1686AdSHEUAEQTUdMFON TEUAEQdMBIT MBAAKETdNYI NTEUMdKEUPUQdGHEUGHENdKEUYEUXdLAANAEdPARUMdVEUM",
  "16874dNGKINDI MVOPdNGGEU MBUdWUAETdSAKEUAEdTAAMdMEUQdNGGUOQeLARGEdMFIYAQdSUEdMBEURIdMONTIEEN",
  "16880dNYAEMAEdPUNGAAMdMEUT NGGEETdFEUXdMBUOQdFEEdKEUAEMdMA NJEUAENAeNJUQAdLETdNGGAAMdNSENdMA",
  "1688DdKIQdNGOMcPHASE-C NGKUE MAEMBAdNZAdYUMdWANGKUOQdNGGENdNDEUAEREEdNGKAQdGHARAEdMBEEKEET",
  "16898dGBAYIdNYIR MKPARAQ MEUNdNTU MBITdMBEUMdPIRIEENdNDOMBUdMBAA CABBAGE-TREEdKEUSHEUAEP",
  "168A0dGHAPdKEUKAQdYU MUOMAEdNZEUMdMBUEdNSEUAENdMBITdYEUQdKPARAQdKAAdSEUXdNDIDAdTAASHAEdNJUEQ",
  "168AEdTITA YUEdSUAETdNGGUAEN NYAMdVEUXdNANSANAQdMA KEUAERIdNTAAdNGGUONdLAPdMBIRIEENdMGBASAQ",
  "168B9dNTEUNGBAdTEUTEUXdNGGUMdFUEdNDEUTdNSAdNSHAQdBUNGdVEUAEPENdMBERAEdRUdNJAEMdLAMdTITUAEP",
  "168C7dNSUOT NGOMdNJEEEEdKETdNGGUdMAESIdMBUAEMdLUdKUTdNJAMdNGOMdWUPdNGGUEETdNSOMdNTEN",
  "168D5dKUOP NKAARAEdNSUNdNDAMdMA NSIEEdYAAdNDAPdSHUEQdSETFONdMBIdMAEMBAdMBANYIdKEUSEUXdMBEUX",
  "168E2dKEUMdMBAA PICKETdYUWOQdNJEUXdMIEEdMUAEdSHIQdKEN LAWeFATIGUEdNGAQdNAQdLIQdPINdPENdTET",
  "168F1cPHASE-D MBUOdWAPdNJIdMFONdNJIEEdLIEEdNJEUTdNSHEEdNGGAAMAEdNYAMdWUAENdNGKUNdSHEEdNGKAP",
  "168FFdKEUAETMEUNdTEUTdSHEUAEdNJAPdSUEdKETdYAEMMAEdKUOMdSAPdMFEUTdNDEUXdMALEERIdMEUTdSEUAEQ",
  "1690DdYENdNJEUAEMdKEUOT MBUAEdNGKEURIdTUdGHAAdNGKYEEdFEUFEUAETdNDEEdMGBOFUMdLEUAEPdNDONdMONI",
  "1691AdMGBEUNdPUUTdMGBIEEdMFOdLUMdNSIEEPdMBAAdKWAETdNYETdTEUAENdSOTdYUWOQdKEUMdRAEMdTEEEE",
  "16929dNGKEUAEQdMFEUAEdNSIEETdKEUPdPIPdPEUTAEdNYUEdLETdNGGAAMdMFIEEdNGGWAENdYUOMdPAPdYUOP",
  "16937dNDAMdNTEUMdSUAEdKUNdNGGEUXdNGKIEEdTUOTdMEUNdKUQdNSUMdTEUNdMAENJETdNGGAPdLEUMdNGGUOM",
  "16946dNSHUTdNJUEQdGHEUAEdKUdREN OLDdTAEdTOQdNYIdRIIdLEEEEdMEEEEdMdSUUdMUdSHIIdSHEUXdKYEEdNU",
  "16958dSHUdNTEEdPEEdNIdSHOQdPUQdMVOPdLOQdREN MUCHdTIdNTUUdMBAA SEVENdSAQdFAAcPHASE-E NDAP",
  "16967dTOONdMBEUMdLAPdVOMdLOONdPAAdSOMdRAQdNSHUOPdNDUNdPUAEdTAMdNGKAdKPEUXdWUOdSEEdNGGEUAET",
  "16978dPAAMdTOOdKUOPdLOMdNSHIEEdNGOPdMAEMdNGKEUXdNGOQdNSHUEdRIMGBAdNJEUXdPEEMdSAAdNGGURAE",
  "16987dMGBAdGHEUXdNGKEUAEMdNJAEMLIdMAPdLOOTdNGGEEEEdNDIQdTAEN NTEUMdSETdPUMdNDAA SOFTNESS",
  "16993dNGGUAESHAE NYAMdYIEEdGHEUNdTUAEdYEUAEdPOdTUMAEdKEUAEdSUAENdTEUAEQdVEUAEdWEUXdLAAMdPU",
  "169A1dTAAQdGHAAMAEdNGEUREUTdSHEUAEQdMGBENdMBEEdNZAQdNKOMdGBETdTUMdKUETdYAPdNYI CLEAVERdYIT",
  "169AFdMFEUQdNDIAQdPIEEQdYUEQdLEUAEMdFUEdGBEUXdNGKUPdKETdMAEdNGKAAMIdGHETdFAdNTUMdPEUTdYEUM",
  "169BFdNGGEUAEdNYI BETWEENdNZUQdPOONdMIEEdFUETdNAEdMUAEdGHEUAEdFU IdMVIdPUAQdNGKUMdKUTdPIET",
  "169CEdNTAPdYEUAETdNGGUPdPA PEOPLEdFU CALLdFOMdNJEEdAdTOQdOdIdLAQdPA PLURALdTAAdTAQ",
  "169DDdNDAA MY HOUSEdSHIQdYEUXdNGUAEdYUAENdYOQ SWIMMINGeCOVERdYUQdYUNdKEUXdPEUXdNJEE EPOCH",
  "169E9dPUEdWUEdFEEdVEEdLUdMIdREUXdRAEdNGUAETdNGAdSHOdSHOQdFU REMEDYdNAdPIdLOQdKOdMENdMAdMAQ",
  "169FDdTEUdKIdMONdTENdFAQdGHOMcPHASE-F KAdUdKUdEEdREEdTAEdNYIdLAdRIIdRIEEdMEEEEdTAAdNDAA",
  "16A10dNJAEMdMdSUUdSHIIdSIdSEUXdKYEEdKETdNUAEdNUdNJUAEdYOQdSHUdYAdNSHAdPEUXdNTEEdWUEdPEEdRU",
  "16A24dNIdREUXdKENdNGKWAENdNGGAdSHOdPUAEdFOMdWAdLIdLOQdKOdMBENdRENdMAdMOdMBAAdTETdKPAdSAMBA",
  "16A38dVUEQ",
  "16A40aMRO LETTER TAcNGIcYOcMIMcBAcDAcAcPHIcKHAIcHAOcDAIcCHUcKEAAEcOLcMAEMcNINcPAcOOcOcROcSHI",
  "16A55cTHEAcEAcWAcEcKOcLANcLAcHAIcRIcTEK",
  "16A60bDIGIT ZEROcONEcTWOcTHREEcFOURcFIVEcSIXcSEVENcEIGHTcNINE",
  "16A6EbDANDAbDOUBLE DANDAaTANGSA LETTER OZcOCcOQcOXcAZcACcAQcAXcVZcVCcVQcVXcEZcECcEQcEXcIZcIC",
  "16A82cIQcIXcUZcUCcUQcUXcAWZcAWCcAWQcAWXcUIZcUICcUIQcUIXcFINAL NGcLONG UEXcSHORT UEZdAWXcUEC",
  "16A95cUEZcUEQcUEXcUIUZcUIUCcUIUQcUIUXcMZcMCcMQcMXcKAcKHAcGAcNGAcSAcYAcWAcPAcNYAcPHAcBAcMAcNA",
  "16AADcHAcLAcHTAcTAcDAcRAcNHAcSHAcCAcTSAcGHAcHTTAcTHAcXAcFAcDHAcCHAcZA",
  "16AC0bDIGIT ZEROcONEcTWOcTHREEcFOURcFIVEcSIXcSEVENcEIGHTcNINE",
  "16AD0aBASSA VAH LETTER ENNIdKAdSEdFAdMBEdYIEdGAHdDHIIdKPAHdJOdHWAHdWAdZOdGBUdDOdCEdUWUdTOdBA",
  "16AE3dVUdYEINdPAdWADDAdAdOdOOdUdEEdEdI",
  "16AF0cCOMBINING HIGH TONEdLOW TONEdMID TONEdLOW-MID TONEdHIGH-LOW TONEcFULL STOP",
  "16B00aPAHAWH HMONG VOWEL KEEBdKEEVdKIBdKIVdKAUBdKAUVdKUBdKUVdKEBdKEVdKAIBdKAIVdKOOBdKOOV",
  "16B0EdKAWBdKAWVdKUABdKUAVdKOBdKOVdKIABdKIAVdKABdKAVdKWBdKWVdKAABdKAAVcCONSONANT VAUdNTSAU",
  "16B1EdLAUdHAUdNLAUdRAUdNKAUdQHAUdYAUdHLAUdMAUdCHAUdNCHAUdHNAUdPLHAUdNTHAUdNAUdAUdXAUdCAU",
  "16B30cMARK CIM TUBeSOeKESeKHAVeSUAMeHOMeTAUMcSIGN VOS THOMeTSHAB CEEBdCIM CHEEMdVOS THIAB",
  "16B3BeFEEMdXYEEM NTXIVeRHOeTOVeFAIBdVOS SEEVdMEEJ SUABdVOS NRUAdIB YAMdXAUSdCIM TSOV ROG",
  "16B50cDIGIT ZEROdONEdTWOdTHREEdFOURdFIVEdSIXdSEVENdEIGHTdNINE",
  "16B5BcNUMBER TENSdHUNDREDSdTEN THOUSANDSdMILLIONSdHUNDRED MILLIONSdTEN BILLIONSdTRILLIONS",
  "16B63cSIGN VOS LUBdXYOOdHLIdTHIRD-STAGE HLIdZWJ THAJdHNUBdNQIGdXIABdNTUJdAVdTXHEEJ CEEV",
  "16B6EdMEEJ TSEEBdTAUdLOSdMUSdCIM HAIS LUS NTOG NTOGeCUAM TSHOOJeTXWVfCHWVePUB DAWBeNRES TOS",
  "16B7DcCLAN SIGN TSHEEJeYEEGeLISeLAUJeXYOOJeKOOeHAWJeMUASeTHOJeTSABePHABeKHABeHAMeVAJeFAJeYAJ",
  "16B8DeTSWBeKWMeVWJ",
  "16E40aMEDEFAIDRIN CAPITAL LETTER MdSdVdWdATIUdZdKPdPdTdGdFdIdKdAdJdEdBdCdUdYUdLdQdHPdNYdXdD",
  "16E5AdOEdNdRdOdAIdYbSMALL LETTER MdSdVdWdATIUdZdKPdPdTdGdFdIdKdAdJdEdBdCdUdYUdLdQdHPdNYdXdD",
  "16E7AdOEdNdRdOdAIdYbDIGIT ZEROcONEcTWOcTHREEcFOURcFIVEcSIXcSEVENcEIGHTcNINEbNUMBER TEN",
  "16E8BcELEVENcTWELVEcTHIRTEENcFOURTEENcFIFTEENcSIXTEENcSEVENTEENcEIGHTEENcNINETEEN",
  "16E94bDIGIT ONE ALTERNATE FORMcTWO ALTERNATE FORMcTHREE ALTERNATE FORMbCOMMAbFULL STOP",
  "16E99bSYMBOL AIVAbEXCLAMATION OH",
  "16F00aMIAO LETTER PAcBAcYI PAcPLAcMAcMHAcARCHAIC MAcFAcVAcVFAcTAcDAcYI TTAdTAcTTAcDDAcNAcNHA",
  "16F12cYI NNAcARCHAIC NAcNNAcNNHAcLAcLYAcLHAcLHYAcTLHAcDLHAcTLHYAcDLHYAcKAcGAcYI KAcQAcQGA",
  "16F23cNGAcNGHAcARCHAIC NGAcHAcXAcGHAcGHHAcTSSAcDZZAcNYAcNYHAcTSHAcDZHAcYI TSHAdDZHA",
  "16F32cREFORMED TSHAcSHAcSSAcZHAcZSHAcTSAcDZAcYI TSAcSAcZAcZSAcZZAcZZSAcARCHAIC ZZAcZZYA",
  "16F41cZZSYAcWAcAHcHHAcBRIcSYIcDZYIcTEcTSEcRTE",
  "16F4FbSIGN CONSONANT MODIFIER BARbLETTER NASALIZATIONbSIGN ASPIRATIONcREFORMED VOICING",
  "16F53dASPIRATIONbVOWEL SIGN AdAAdAHHdANdANGdOdOOdWOdWdEdENdENGdOEYdIdIAdIANdIANGdIOdIEdIIdIU",
  "16F69dINGdUdUAdUANdUANGdUUdUEIdUNGdYdYIdAEdAEEdERRdROUNDED ERRdERdROUNDED ERdAIdEIdAUdOUdN",
  "16F7EdNGdUOGdYUIdOGdOERdVWdIGdEAdIONGdUI",
  "16F8FbTONE RIGHTcTOP RIGHTcABOVEcBELOWbLETTER TONE-2cTONE-3cTONE-4cTONE-5cTONE-6cTONE-7",
  "16F99cTONE-8cREFORMED TONE-1dTONE-2dTONE-4dTONE-5dTONE-6dTONE-8",
  "16FE0aTANGUT ITERATION MARKaNUSHU ITERATION MARKaOLD CHINESE HOOK MARKcITERATION MARK",
  "16FE4aKHITAN SMALL SCRIPT FILLER",
  "16FF0aVIETNAMESE ALTERNATE READING MARK CAeNHAY",
  "18800aTANGUT COMPONENT-001bCOMPONENT-002bCOMPONENT-003bCOMPONENT-004bCOMPONENT-005",
  "18805bCOMPONENT-006bCOMPONENT-007bCOMPONENT-008bCOMPONENT-009bCOMPONENT-010bCOMPONENT-011",
  "1880BbCOMPONENT-012bCOMPONENT-013bCOMPONENT-014bCOMPONENT-015bCOMPONENT-016bCOMPONENT-017",
  "18811bCOMPONENT-018bCOMPONENT-019bCOMPONENT-020bCOMPONENT-021bCOMPONENT-022bCOMPONENT-023",
  "18817bCOMPONENT-024bCOMPONENT-025bCOMPONENT-026bCOMPONENT-027bCOMPONENT-028bCOMPONENT-029",
  "1881DbCOMPONENT-030bCOMPONENT-031bCOMPONENT-032bCOMPONENT-033bCOMPONENT-034bCOMPONENT-035",
  "18823bCOMPONENT-036bCOMPONENT-037bCOMPONENT-038bCOMPONENT-039bCOMPONENT-040bCOMPONENT-041",
  "18829bCOMPONENT-042bCOMPONENT-043bCOMPONENT-044bCOMPONENT-045bCOMPONENT-046bCOMPONENT-047",
  "1882FbCOMPONENT-048bCOMPONENT-049bCOMPONENT-050bCOMPONENT-051bCOMPONENT-052bCOMPONENT-053",
  "18835bCOMPONENT-054bCOMPONENT-055bCOMPONENT-056bCOMPONENT-057bCOMPONENT-058bCOMPONENT-059",
  "1883BbCOMPONENT-060bCOMPONENT-061bCOMPONENT-062bCOMPONENT-063bCOMPONENT-064bCOMPONENT-065",
  "18841bCOMPONENT-066bCOMPONENT-067bCOMPONENT-068bCOMPONENT-069bCOMPONENT-070bCOMPONENT-071",
  "18847bCOMPONENT-072bCOMPONENT-073bCOMPONENT-074bCOMPONENT-075bCOMPONENT-076bCOMPONENT-077",
  "1884DbCOMPONENT-078bCOMPONENT-079bCOMPONENT-080bCOMPONENT-081bCOMPONENT-082bCOMPONENT-083",
  "18853bCOMPONENT-084bCOMPONENT-085bCOMPONENT-086bCOMPONENT-087bCOMPONENT-088bCOMPONENT-089",
  "18859bCOMPONENT-090bCOMPONENT-091bCOMPONENT-092bCOMPONENT-093bCOMPONENT-094bCOMPONENT-095",
  "1885FbCOMPONENT-096bCOMPONENT-097bCOMPONENT-098bCOMPONENT-099bCOMPONENT-100bCOMPONENT-101",
  "18865bCOMPONENT-102bCOMPONENT-103bCOMPONENT-104bCOMPONENT-105bCOMPONENT-106bCOMPONENT-107",
  "1886BbCOMPONENT-108bCOMPONENT-109bCOMPONENT-110bCOMPONENT-111bCOMPONENT-112bCOMPONENT-113",
  "18871bCOMPONENT-114bCOMPONENT-115bCOMPONENT-116bCOMPONENT-117bCOMPONENT-118bCOMPONENT-119",
  "18877bCOMPONENT-120bCOMPONENT-121bCOMPONENT-122bCOMPONENT-123bCOMPONENT-124bCOMPONENT-125",
  "1887DbCOMPONENT-126bCOMPONENT-127bCOMPONENT-128bCOMPONENT-129bCOMPONENT-130bCOMPONENT-131",
  "18883bCOMPONENT-132bCOMPONENT-133bCOMPONENT-134bCOMPONENT-135bCOMPONENT-136bCOMPONENT-137",
  "18889bCOMPONENT-138bCOMPONENT-139bCOMPONENT-140bCOMPONENT-141bCOMPONENT-142bCOMPONENT-143",
  "1888FbCOMPONENT-144bCOMPONENT-145bCOMPONENT-146bCOMPONENT-147bCOMPONENT-148bCOMPONENT-149",
  "18895bCOMPONENT-150bCOMPONENT-151bCOMPONENT-152bCOMPONENT-153bCOMPONENT-154bCOMPONENT-155",
  "1889BbCOMPONENT-156bCOMPONENT-157bCOMPONENT-158bCOMPONENT-159bCOMPONENT-160bCOMPONENT-161",
  "188A1bCOMPONENT-162bCOMPONENT-163bCOMPONENT-164bCOMPONENT-165bCOMPONENT-166bCOMPONENT-167",
  "188A7bCOMPONENT-168bCOMPONENT-169bCOMPONENT-170bCOMPONENT-171bCOMPONENT-172bCOMPONENT-173",
  "188ADbCOMPONENT-174bCOMPONENT-175bCOMPONENT-176bCOMPONENT-177bCOMPONENT-178bCOMPONENT-179",
  "188B3bCOMPONENT-180bCOMPONENT-181bCOMPONENT-182bCOMPONENT-183bCOMPONENT-184bCOMPONENT-185",
  "188B9bCOMPONENT-186bCOMPONENT-187bCOMPONENT-188bCOMPONENT-189bCOMPONENT-190bCOMPONENT-191",
  "188BFbCOMPONENT-192bCOMPONENT-193bCOMPONENT-194bCOMPONENT-195bCOMPONENT-196bCOMPONENT-197",
  "188C5bCOMPONENT-198bCOMPONENT-199bCOMPONENT-200bCOMPONENT-201bCOMPONENT-202bCOMPONENT-203",
  "188CBbCOMPONENT-204bCOMPONENT-205bCOMPONENT-206bCOMPONENT-207bCOMPONENT-208bCOMPONENT-209",
  "188D1bCOMPONENT-210bCOMPONENT-211bCOMPONENT-212bCOMPONENT-213bCOMPONENT-214bCOMPONENT-215",
  "188D7bCOMPONENT-216bCOMPONENT-217bCOMPONENT-218bCOMPONENT-219bCOMPONENT-220bCOMPONENT-221",
  "188DDbCOMPONENT-222bCOMPONENT-223bCOMPONENT-224bCOMPONENT-225bCOMPONENT-226bCOMPONENT-227",
  "188E3bCOMPONENT-228bCOMPONENT-229bCOMPONENT-230bCOMPONENT-231bCOMPONENT-232bCOMPONENT-233",
  "188E9bCOMPONENT-234bCOMPONENT-235bCOMPONENT-236bCOMPONENT-237bCOMPONENT-238bCOMPONENT-239",
  "188EFbCOMPONENT-240bCOMPONENT-241bCOMPONENT-242bCOMPONENT-243bCOMPONENT-244bCOMPONENT-245",
  "188F5bCOMPONENT-246bCOMPONENT-247bCOMPONENT-248bCOMPONENT-249bCOMPONENT-250bCOMPONENT-251",
  "188FBbCOMPONENT-252bCOMPONENT-253bCOMPONENT-254bCOMPONENT-255bCOMPONENT-256bCOMPONENT-257",
  "18901bCOMPONENT-258bCOMPONENT-259bCOMPONENT-260bCOMPONENT-261bCOMPONENT-262bCOMPONENT-263",
  "18907bCOMPONENT-264bCOMPONENT-265bCOMPONENT-266bCOMPONENT-267bCOMPONENT-268bCOMPONENT-269",
  "1890DbCOMPONENT-270bCOMPONENT-271bCOMPONENT-272bCOMPONENT-273bCOMPONENT-274bCOMPONENT-275",
  "18913bCOMPONENT-276bCOMPONENT-277bCOMPONENT-278bCOMPONENT-279bCOMPONENT-280bCOMPONENT-281",
  "18919bCOMPONENT-282bCOMPONENT-283bCOMPONENT-284bCOMPONENT-285bCOMPONENT-286bCOMPONENT-287",
  "1891FbCOMPONENT-288bCOMPONENT-289bCOMPONENT-290bCOMPONENT-291bCOMPONENT-292bCOMPONENT-293",
  "18925bCOMPONENT-294bCOMPONENT-295bCOMPONENT-296bCOMPONENT-297bCOMPONENT-298bCOMPONENT-299",
  "1892BbCOMPONENT-300bCOMPONENT-301bCOMPONENT-302bCOMPONENT-303bCOMPONENT-304bCOMPONENT-305",
  "18931bCOMPONENT-306bCOMPONENT-307bCOMPONENT-308bCOMPONENT-309bCOMPONENT-310bCOMPONENT-311",
  "18937bCOMPONENT-312bCOMPONENT-313bCOMPONENT-314bCOMPONENT-315bCOMPONENT-316bCOMPONENT-317",
  "1893DbCOMPONENT-318bCOMPONENT-319bCOMPONENT-320bCOMPONENT-321bCOMPONENT-322bCOMPONENT-323",
  "18943bCOMPONENT-324bCOMPONENT-325bCOMPONENT-326bCOMPONENT-327bCOMPONENT-328bCOMPONENT-329",
  "18949bCOMPONENT-330bCOMPONENT-331bCOMPONENT-332bCOMPONENT-333bCOMPONENT-334bCOMPONENT-335",
  "1894FbCOMPONENT-336bCOMPONENT-337bCOMPONENT-338bCOMPONENT-339bCOMPONENT-340bCOMPONENT-341",
  "18955bCOMPONENT-342bCOMPONENT-343bCOMPONENT-344bCOMPONENT-345bCOMPONENT-346bCOMPONENT-347",
  "1895BbCOMPONENT-348bCOMPONENT-349bCOMPONENT-350bCOMPONENT-351bCOMPONENT-352bCOMPONENT-353",
  "18961bCOMPONENT-354bCOMPONENT-355bCOMPONENT-356bCOMPONENT-357bCOMPONENT-358bCOMPONENT-359",
  "18967bCOMPONENT-360bCOMPONENT-361bCOMPONENT-362bCOMPONENT-363bCOMPONENT-364bCOMPONENT-365",
  "1896DbCOMPONENT-366bCOMPONENT-367bCOMPONENT-368bCOMPONENT-369bCOMPONENT-370bCOMPONENT-371",
  "18973bCOMPONENT-372bCOMPONENT-373bCOMPONENT-374bCOMPONENT-375bCOMPONENT-376bCOMPONENT-377",
  "18979bCOMPONENT-378bCOMPONENT-379bCOMPONENT-380bCOMPONENT-381bCOMPONENT-382bCOMPONENT-383",
  "1897FbCOMPONENT-384bCOMPONENT-385bCOMPONENT-386bCOMPONENT-387bCOMPONENT-388bCOMPONENT-389",
  "18985bCOMPONENT-390bCOMPONENT-391bCOMPONENT-392bCOMPONENT-393bCOMPONENT-394bCOMPONENT-395",
  "1898BbCOMPONENT-396bCOMPONENT-397bCOMPONENT-398bCOMPONENT-399bCOMPONENT-400bCOMPONENT-401",
  "18991bCOMPONENT-402bCOMPONENT-403bCOMPONENT-404bCOMPONENT-405bCOMPONENT-406bCOMPONENT-407",
  "18997bCOMPONENT-408bCOMPONENT-409bCOMPONENT-410bCOMPONENT-411bCOMPONENT-412bCOMPONENT-413",
  "1899DbCOMPONENT-414bCOMPONENT-415bCOMPONENT-416bCOMPONENT-417bCOMPONENT-418bCOMPONENT-419",
  "189A3bCOMPONENT-420bCOMPONENT-421bCOMPONENT-422bCOMPONENT-423bCOMPONENT-424bCOMPONENT-425",
  "189A9bCOMPONENT-426bCOMPONENT-427bCOMPONENT-428bCOMPONENT-429bCOMPONENT-430bCOMPONENT-431",
  "189AFbCOMPONENT-432bCOMPONENT-433bCOMPONENT-434bCOMPONENT-435bCOMPONENT-436bCOMPONENT-437",
  "189B5bCOMPONENT-438bCOMPONENT-439bCOMPONENT-440bCOMPONENT-441bCOMPONENT-442bCOMPONENT-443",
  "189BBbCOMPONENT-444bCOMPONENT-445bCOMPONENT-446bCOMPONENT-447bCOMPONENT-448bCOMPONENT-449",
  "189C1bCOMPONENT-450bCOMPONENT-451bCOMPONENT-452bCOMPONENT-453bCOMPONENT-454bCOMPONENT-455",
  "189C7bCOMPONENT-456bCOMPONENT-457bCOMPONENT-458bCOMPONENT-459bCOMPONENT-460bCOMPONENT-461",
  "189CDbCOMPONENT-462bCOMPONENT-463bCOMPONENT-464bCOMPONENT-465bCOMPONENT-466bCOMPONENT-467",
  "189D3bCOMPONENT-468bCOMPONENT-469bCOMPONENT-470bCOMPONENT-471bCOMPONENT-472bCOMPONENT-473",
  "189D9bCOMPONENT-474bCOMPONENT-475bCOMPONENT-476bCOMPONENT-477bCOMPONENT-478bCOMPONENT-479",
  "189DFbCOMPONENT-480bCOMPONENT-481bCOMPONENT-482bCOMPONENT-483bCOMPONENT-484bCOMPONENT-485",
  "189E5bCOMPONENT-486bCOMPONENT-487bCOMPONENT-488bCOMPONENT-489bCOMPONENT-490bCOMPONENT-491",
  "189EBbCOMPONENT-492bCOMPONENT-493bCOMPONENT-494bCOMPONENT-495bCOMPONENT-496bCOMPONENT-497",
  "189F1bCOMPONENT-498bCOMPONENT-499bCOMPONENT-500bCOMPONENT-501bCOMPONENT-502bCOMPONENT-503",
  "189F7bCOMPONENT-504bCOMPONENT-505bCOMPONENT-506bCOMPONENT-507bCOMPONENT-508bCOMPONENT-509",
  "189FDbCOMPONENT-510bCOMPONENT-511bCOMPONENT-512bCOMPONENT-513bCOMPONENT-514bCOMPONENT-515",
  "18A03bCOMPONENT-516bCOMPONENT-517bCOMPONENT-518bCOMPONENT-519bCOMPONENT-520bCOMPONENT-521",
  "18A09bCOMPONENT-522bCOMPONENT-523bCOMPONENT-524bCOMPONENT-525bCOMPONENT-526bCOMPONENT-527",
  "18A0FbCOMPONENT-528bCOMPONENT-529bCOMPONENT-530bCOMPONENT-531bCOMPONENT-532bCOMPONENT-533",
  "18A15bCOMPONENT-534bCOMPONENT-535bCOMPONENT-536bCOMPONENT-537bCOMPONENT-538bCOMPONENT-539",
  "18A1BbCOMPONENT-540bCOMPONENT-541bCOMPONENT-542bCOMPONENT-543bCOMPONENT-544bCOMPONENT-545",
  "18A21bCOMPONENT-546bCOMPONENT-547bCOMPONENT-548bCOMPONENT-549bCOMPONENT-550bCOMPONENT-551",
  "18A27bCOMPONENT-552bCOMPONENT-553bCOMPONENT-554bCOMPONENT-555bCOMPONENT-556bCOMPONENT-557",
  "18A2DbCOMPONENT-558bCOMPONENT-559bCOMPONENT-560bCOMPONENT-561bCOMPONENT-562bCOMPONENT-563",
  "18A33bCOMPONENT-564bCOMPONENT-565bCOMPONENT-566bCOMPONENT-567bCOMPONENT-568bCOMPONENT-569",
  "18A39bCOMPONENT-570bCOMPONENT-571bCOMPONENT-572bCOMPONENT-573bCOMPONENT-574bCOMPONENT-575",
  "18A3FbCOMPONENT-576bCOMPONENT-577bCOMPONENT-578bCOMPONENT-579bCOMPONENT-580bCOMPONENT-581",
  "18A45bCOMPONENT-582bCOMPONENT-583bCOMPONENT-584bCOMPONENT-585bCOMPONENT-586bCOMPONENT-587",
  "18A4BbCOMPONENT-588bCOMPONENT-589bCOMPONENT-590bCOMPONENT-591bCOMPONENT-592bCOMPONENT-593",
  "18A51bCOMPONENT-594bCOMPONENT-595bCOMPONENT-596bCOMPONENT-597bCOMPONENT-598bCOMPONENT-599",
  "18A57bCOMPONENT-600bCOMPONENT-601bCOMPONENT-602bCOMPONENT-603bCOMPONENT-604bCOMPONENT-605",
  "18A5DbCOMPONENT-606bCOMPONENT-607bCOMPONENT-608bCOMPONENT-609bCOMPONENT-610bCOMPONENT-611",
  "18A63bCOMPONENT-612bCOMPONENT-613bCOMPONENT-614bCOMPONENT-615bCOMPONENT-616bCOMPONENT-617",
  "18A69bCOMPONENT-618bCOMPONENT-619bCOMPONENT-620bCOMPONENT-621bCOMPONENT-622bCOMPONENT-623",
  "18A6FbCOMPONENT-624bCOMPONENT-625bCOMPONENT-626bCOMPONENT-627bCOMPONENT-628bCOMPONENT-629",
  "18A75bCOMPONENT-630bCOMPONENT-631bCOMPONENT-632bCOMPONENT-633bCOMPONENT-634bCOMPONENT-635",
  "18A7BbCOMPONENT-636bCOMPONENT-637bCOMPONENT-638bCOMPONENT-639bCOMPONENT-640bCOMPONENT-641",
  "18A81bCOMPONENT-642bCOMPONENT-643bCOMPONENT-644bCOMPONENT-645bCOMPONENT-646bCOMPONENT-647",
  "18A87bCOMPONENT-648bCOMPONENT-649bCOMPONENT-650bCOMPONENT-651bCOMPONENT-652bCOMPONENT-653",
  "18A8DbCOMPONENT-654bCOMPONENT-655bCOMPONENT-656bCOMPONENT-657bCOMPONENT-658bCOMPONENT-659",
  "18A93bCOMPONENT-660bCOMPONENT-661bCOMPONENT-662bCOMPONENT-663bCOMPONENT-664bCOMPONENT-665",
  "18A99bCOMPONENT-666bCOMPONENT-667bCOMPONENT-668bCOMPONENT-669bCOMPONENT-670bCOMPONENT-671",
  "18A9FbCOMPONENT-672bCOMPONENT-673bCOMPONENT-674bCOMPONENT-675bCOMPONENT-676bCOMPONENT-677",
  "18AA5bCOMPONENT-678bCOMPONENT-679bCOMPONENT-680bCOMPONENT-681bCOMPONENT-682bCOMPONENT-683",
  "18AABbCOMPONENT-684bCOMPONENT-685bCOMPONENT-686bCOMPONENT-687bCOMPONENT-688bCOMPONENT-689",
  "18AB1bCOMPONENT-690bCOMPONENT-691bCOMPONENT-692bCOMPONENT-693bCOMPONENT-694bCOMPONENT-695",
  "18AB7bCOMPONENT-696bCOMPONENT-697bCOMPONENT-698bCOMPONENT-699bCOMPONENT-700bCOMPONENT-701",
  "18ABDbCOMPONENT-702bCOMPONENT-703bCOMPONENT-704bCOMPONENT-705bCOMPONENT-706bCOMPONENT-707",
  "18AC3bCOMPONENT-708bCOMPONENT-709bCOMPONENT-710bCOMPONENT-711bCOMPONENT-712bCOMPONENT-713",
  "18AC9bCOMPONENT-714bCOMPONENT-715bCOMPONENT-716bCOMPONENT-717bCOMPONENT-718bCOMPONENT-719",
  "18ACFbCOMPONENT-720bCOMPONENT-721bCOMPONENT-722bCOMPONENT-723bCOMPONENT-724bCOMPONENT-725",
  "18AD5bCOMPONENT-726bCOMPONENT-727bCOMPONENT-728bCOMPONENT-729bCOMPONENT-730bCOMPONENT-731",
  "18ADBbCOMPONENT-732bCOMPONENT-733bCOMPONENT-734bCOMPONENT-735bCOMPONENT-736bCOMPONENT-737",
  "18AE1bCOMPONENT-738bCOMPONENT-739bCOMPONENT-740bCOMPONENT-741bCOMPONENT-742bCOMPONENT-743",
  "18AE7bCOMPONENT-744bCOMPONENT-745bCOMPONENT-746bCOMPONENT-747bCOMPONENT-748bCOMPONENT-749",
  "18AEDbCOMPONENT-750bCOMPONENT-751bCOMPONENT-752bCOMPONENT-753bCOMPONENT-754bCOMPONENT-755",
  "18AF3bCOMPONENT-756bCOMPONENT-757bCOMPONENT-758bCOMPONENT-759bCOMPONENT-760bCOMPONENT-761",
  "18AF9bCOMPONENT-762bCOMPONENT-763bCOMPONENT-764bCOMPONENT-765bCOMPONENT-766bCOMPONENT-767",
  "18AFFbCOMPONENT-768",
  "1AFF0aKATAKANA LETTER MINNAN TONE-2dTONE-3dTONE-4dTONE-5",
  "1AFF5dTONE-7dTONE-8dNASALIZED TONE-1eTONE-2eTONE-3eTONE-4eTONE-5",
  "1AFFDeTONE-7eTONE-8"]

end Stencil.CodePoint.Name
