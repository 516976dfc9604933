/-!
# Names of characters: pictures

Symbols of music, mathematics and games, pictures and tags. A run starts at a code point; a
name starts with a mark for how much it shares with the one before.
-/

namespace ApiBridge.Text

/-- The names of these characters, in runs. -/
def picturesNames : List (Nat × String) :=
  [
    (0x1d000, "aBYZANTINE MUSICAL SYMBOL PSILIzDASEIAzPERISPOMENIzOXEIA EKFONITIKONζDIPLIzVAREIA EK"
      ++ "FONITIKONηDIPLIzKATHISTIzSYRMATIKIzPARAKLITIKIzYPOKRISISι DIPLIzKREMASTIzAPESO EKFON"
      ++ "ITIKONzEXO EKFONITIKONzTELEIAzKENTIMATAzAPOSTROFOSκ DIPLIzSYNEVMAzTHITAzOLIGON ARCHA"
      ++ "IONzGORGON ARCHAIONzPSILONzCHAMILONzVATHYzISON ARCHAIONzKENTIMA ARCHAIONηTA ARCHAION"
      ++ "zSAXIMATAzPARICHONzSTAVROS APODEXIAzOXEIAI ARCHAIONzVAREIAI ARCHAIONzAPODERMA ARCHAI"
      ++ "ONγTHEMAzKLASMAzREVMAzPIASMA ARCHAIONzTINAGMAzANATRICHISMAzSEISMAαYNAGMA ARCHAIONθME"
      ++ "TA STAVROUzOYRANISMA ARCHAIONzTHEMAzLEMOIzDYOzTRIAαESSERAzKRATIMATAzAPESO EXO NEOzFT"
      ++ "HORA ARCHAIONzIMIFTHORAzTROMIKON ARCHAIONzKATAVA TROMIKONzPELASTONαSIFISTONzKONTEVMA"
      ++ "zCHOREVMA ARCHAIONzRAPISMAzPARAKALESMA ARCHAIONεLITIKI ARCHAIONzICHADIN"),
    (0x1d040, "aBYZANTINE MUSICAL SYMBOL NANAzPETASMAzKONTEVMA ALLOzTROMIKON ALLOzSTRAGGISMATAzGRON"
      ++ "THISMATAzISON NEOzOLIGON NEOαXEIA NEOzPETASTIzKOUFISMAzPETASTOKOUFISMAzKRATIMOKOUFIS"
      ++ "MAzPELASTON NEOzKENTIMATA NEO ANOη NEO ANOzYPSILIzAPOSTROFOS NEOιI SYNDESMOS NEOzYPO"
      ++ "RROIzKRATIMOYPORROONzELAFRONzCHAMILIzMIKRON ISONzVAREIA NEOzPIASMA NEOαSIFISTON NEOz"
      ++ "OMALONzANTIKENOMAzLYGISMAzPARAKLITIKI NEOεALESMA NEOzETERON PARAKALESMAzKYLISMAzANTI"
      ++ "KENOKYLISMAzTROMIKON NEOzEKSTREPTONzSYNAGMA NEOβRMAzCHOREVMA NEOzEPEGERMAzSEISMA NEO"
      ++ "zXIRON KLASMAzTROMIKOPSIFISTONzPSIFISTOLYGISMAzTROMIKOLYGISMAηPARAKALESMAzPSIFISTOPA"
      ++ "RAKALESMAzTROMIKOSYNAGMAzPSIFISTOSYNAGMAzGORGOSYNTHETONzARGOSYNTHETONzETERON ARGOSYN"
      ++ "THETONzOYRANISMA NEOzTHEMATISMOS ESOνXOε APLOUNγS KAI APOTHESzKATAVASMAzENDOFONONzYF"
      ++ "EN KATOεANOzSTAVROSzKLASMA ANO"),
    (0x1d080, "aBYZANTINE MUSICAL SYMBOL DIPLI ARCHAIONzKRATIMA ARCHAIONιLLOθNEOzAPODERMA NEOβLIzDI"
      ++ "PLIzTRIPLIαETRAPLIzKORONISzLEIMMA ENOS CHRONOUηDYO CHRONONηTRION CHRONONθESSARON CHR"
      ++ "ONONηIMISEOS CHRONOUzGORGON NEO ANOηPARESTIGMENON ARISTERAφDEXIAzDIGORGONθ PARESTIGM"
      ++ "ENON ARISTERA KATOωRISTERA ANOψDEXIAzTRIGORGONzARGONzIMIDIARGONzDIARGONzAGOGI POLI A"
      ++ "RGIζARGOTERIιIζMETRIAθSIζGORGIκOTERIζPOLI GORGIzMARTYRIA PROTOS ICHOSιALLI PROTOS IC"
      ++ "HOSιDEYTEROS ICHOSιALLI DEYTEROS ICHOSιTRITOS ICHOSμFONIASκETARTOS ICHOSσLEGETOS ICH"
      ++ "OSιLEGETOS ICHOSιPLAGIOS ICHOSzISAKIA TELOUS ICHIMATOSzAPOSTROFOI TELOUS ICHIMATOSzF"
      ++ "ANEROSIS TETRAFONIASκMONOFONIASκDIFONIASzMARTYRIA VARYS ICHOSιPROTOVARYS ICHOSκLAGIO"
      ++ "S TETARTOS ICHOSzGORTHMIKON N APLOUNνDIPLOUNzENARXIS KAI FTHORA VOUzIMIFONONδTHORONz"
      ++ "FTHORA ARCHAION DEYTEROU ICHOUηDIATONIKI PAρNANAηNAOS ICHOSηDIATONIKI DIηSKLIRON DIA"
      ++ "TONON DIηDIATONIKI KE"),
    (0x1d0c0, "aBYZANTINE MUSICAL SYMBOL FTHORA DIATONIKI ZOρNI KATOυANOηMALAKON CHROMA DIFONIASχMO"
      ++ "NOFONIASαHTORA SKLIRON CHROMA VASISαTHORA SKLIRON CHROMA SYNAFIηNENANOzCHROA ZYGOSζK"
      ++ "LITONζSPATHIzFTHORA I YFESIS TETARTIMORIONηENARMONIOS ANTIFONIAzYFESIS TRITIMORIONzD"
      ++ "IESIS TRITIMORIONθETARTIMORIONηAPLI DYO DODEKATAηMONOGRAMMOS TESSERA DODEKATAηDIGRAM"
      ++ "MOS EX DODEKATAηTRIGRAMMOS OKTO DODEKATAzYFESIS APLI DYO DODEKATAηMONOGRAMMOS TESSER"
      ++ "A DODEKATAηDIGRAMMOS EX DODEKATAηTRIGRAMMOS OKTO DODEKATAzGENIKI DIESISηYFESISzDIAST"
      ++ "OLI APLI MIKRIοEGALIιDIPLIιTHESEOSzSIMANSIS THESEOSπ DISIMOUρTRISIMOUσETRASIMOUιARSE"
      ++ "OSο DISIMOUπTRISIMOUρETRASIMOUzDIGRAMMA GGβFTOGGOS OUzSTIGMAzARKTIKO PAθVOUθGAθDIθKE"
      ++ "θZOθNIzKENTIMATA NEO MESOη NEO MESOηTA NEO KATOη NEO KATOαLASMA KATOzGORGON NEO KATO"),
    (0x1d100, "aMUSICAL SYMBOL SINGLE BARLINEpDOUBLE BARLINEpFINAL BARLINEpREVERSE FINAL BARLINEpDA"
      ++ "SHED BARLINEpSHORT BARLINEpLEFT REPEAT SIGNpRIGHT REPEAT SIGNqEPEAT DOTSpDAL SEGNOr "
      ++ "CAPOpSEGNOpCODApREPEATED FIGURE-1ζ2ζ3pFERMATAw BELOWpBREATH MARKpCAESURApBRACEtKETpO"
      ++ "NE-LINE STAFFpTWO-LINE STAFFqHREE-LINE STAFFpFOUR-LINE STAFFqIVE-LINE STAFFpSIX-LINE"
      ++ " STAFFtSTRING FRETBOARDpFOUR-STRING FRETBOARDpG CLEFv OTTAVA ALTAδBASSApC CLEFpF CLE"
      ++ "Fv OTTAVA ALTAδBASSApDRUM CLEF-1z2"),
    (0x1d129, "aMUSICAL SYMBOL MULTIPLE MEASURE RESTpDOUBLE SHARPwFLATpFLAT UPuDOWNpNATURAL UPxDOWN"
      ++ "pSHARP UPvDOWNpQUARTER TONE SHARPγFLATpCOMMON TIMEqUT TIMEpOTTAVA ALTAwBASSApQUINDIC"
      ++ "ESIMA ALTAγBASSApMULTI RESTpWHOLE RESTpHALF RESTpQUARTER RESTpEIGHTH RESTpSIXTEENTH "
      ++ "RESTpTHIRTY-SECOND RESTpSIXTY-FOURTH RESTpONE HUNDRED TWENTY-EIGHTH RESTpX NOTEHEADp"
      ++ "PLUS NOTEHEADpCIRCLE X NOTEHEADpSQUARE NOTEHEAD WHITEζBLACKpTRIANGLE NOTEHEAD UP WHI"
      ++ "TEλBLACKθLEFT WHITEνBLACKθRIGHT WHITEξBLACKθDOWN WHITEνBLACKθUP RIGHT WHITEρBLACKpMO"
      ++ "ON NOTEHEAD WHITEδBLACKpTRIANGLE-ROUND NOTEHEAD DOWN WHITEτBLACKpPARENTHESIS NOTEHEA"
      ++ "DpVOID NOTEHEADpNOTEHEAD BLACKqULL NOTEHEADpCLUSTER NOTEHEAD WHITEηBLACKpBREVEpWHOLE"
      ++ " NOTEpHALF NOTEpQUARTER NOTEpEIGHTH NOTEpSIXTEENTH NOTEpTHIRTY-SECOND NOTEpSIXTY-FOU"
      ++ "RTH NOTEpONE HUNDRED TWENTY-EIGHTH NOTEpCOMBINING STEMαPRECHGESANG STEMzTREMOLO-1θ2"),
    (0x1d169, "aMUSICAL SYMBOL COMBINING TREMOLO-3pFINGERED TREMOLO-1η2η3pCOMBINING AUGMENTATION DO"
      ++ "TzFLAG-1ε2ε3ε4ε5pBEGIN BEAMpEND BEAMpBEGIN TIEpEND TIEpBEGIN SLURpEND SLURpBEGIN PHR"
      ++ "ASEpEND PHRASEpCOMBINING ACCENTzSTACCATOzTENUTOzSTACCATISSIMOzMARCATOη-STACCATOzACCE"
      ++ "NT-STACCATOzLOUREpARPEGGIATO UPαDOWNpCOMBINING DOITzRIPzFLIPzSMEARzBENDzDOUBLE TONGU"
      ++ "EzTRIPLE TONGUEpRINFORZANDOpSUBITOpZpPIANOpMEZZOpFORTEpCRESCENDOpDECRESCENDOpGRACE N"
      ++ "OTE SLASHαNO SLASHpTRqURNpINVERTED TURNpTURN SLASHuUPpORNAMENT STROKE-1ζ2ζ3ζ4ζ5ζ6ζ7ζ"
      ++ "8ζ9ζ10η1pHAUPTSTIMMEpNEBENSTIMMEpEND OF STIMME"),
    (0x1d1a9, "aMUSICAL SYMBOL DEGREE SLASHpCOMBINING DOWN BOWzUP BOWzHARMONICzSNAP PIZZICATOpPEDAL"
      ++ " MARKvUP MARKpHALF PEDAL MARKpGLISSANDO UPzDOWNpWITH FINGERNAILSpDAMPt ALLpMAXIMApLO"
      ++ "NGApBREVISpSEMIBREVIS WHITEαBLACKpMINIMAv BLACKpSEMIMINIMA WHITEαBLACKpFUSA WHITEuBL"
      ++ "ACKpLONGA PERFECTA RESTvIMPERFECTA RESTpBREVIS RESTpSEMIBREVIS RESTpMINIMA RESTpSEMI"
      ++ "MINIMA RESTpTEMPUS PERFECTUM CUM PROLATIONE PERFECTAχIMPERFECTAχPERFECTA DIMINUTION-"
      ++ "1wIMPERFECTUM CUM PROLATIONE PERFECTAωIMPERFECTAωIMPERFECTA DIMINUTION-1ωIMPERFECTA "
      ++ "DIMINUTION-2ωIMPERFECTA DIMINUTION-3pCROIXpGREGORIAN C CLEFzF CLEFpSQUARE BpVIRGApPO"
      ++ "DATUSpCLIVISpSCANDICUSpCLIMACUSpTORCULUSpPORRECTUSy FLEXUSpSCANDICUS FLEXUSpTORCULUS"
      ++ " RESUPINUSpPES SUBPUNCTISpKIEVAN C CLEFwEND OF PIECEwFINAL NOTEwRECITATIVE MARKwWHOL"
      ++ "E NOTEwHALF NOTEwQUARTER NOTE STEM DOWNοUPwEIGHTH NOTE STEM DOWNξUPwFLAT SIGN"),
    (0x1d1e9, "aMUSICAL SYMBOL SORIpKORON"),
    (0x1d200, "aGREEK VOCAL NOTATION SYMBOL-1γ2γ3γ4γ5γ6γ7γ8γ9γ10δ1δ2δ3δ4δ5δ6δ7δ8δ9γ20δ1δ2δ3δ4γ50δ1δ"
      ++ "2δ3δ4gINSTRUMENTAL NOTATION SYMBOL-1κ2κ4κ5κ7κ8κ11λ2λ3λ4λ7λ8λ9κ23λ4λ5λ6λ7λ9κ30λ2λ6λ7λ"
      ++ "8λ9κ40λ2λ3λ5λ7λ8λ9κ50λ1λ2"),
    (0x1d240, "aGREEK INSTRUMENTAL NOTATION SYMBOL-53λ4aCOMBINING GREEK MUSICAL TRISEMEzETRASEMEyPE"
      ++ "NTASEMEaGREEK MUSICAL LEIMMA"),
    (0x1d2e0, "aMAYAN NUMERAL ZEROoONEoTWOpHREEoFOURpIVEoSIXpEVENoEIGHToNINEoTENoELEVENoTWELVEpHIRT"
      ++ "EENoFOURTEENpIFTEENoSIXTEENpEVENTEENoEIGHTEENoNINETEEN"),
    (0x1d300, "aMONOGRAM FOR EARTHaDIGRAM FOR HEAVENLY EARTHmUMAN EARTHlEARTHLY HEAVENuUMANqaTETRAG"
      ++ "RAM FOR CENTREoFULL CIRCLEoMIREDoBARRIERoKEEPING SMALLoCONTRARIETYoASCENToOPPOSITION"
      ++ "oBRANCHING OUToDEFECTIVENESS OR DISTORTIONpIVERGENCEoYOUTHFULNESSoINCREASEoPENETRATI"
      ++ "ONoREACHoCONTACToHOLDING BACKoWAITINGoFOLLOWINGoADVANCEoRELEASEqSISTANCEoEASEoJOYoCO"
      ++ "NTENTIONoENDEAVOURoDUTIESoCHANGEoDECISIVENESSoBOLD RESOLUTIONoPACKINGoLEGIONoCLOSENE"
      ++ "SSoKINSHIPoGATHERINGoSTRENGTHoPURITYoFULLNESSoRESIDENCEoLAW OR MODELoRESPONSEoGOING "
      ++ "TO MEEToENCOUNTERSoSTOVEoGREATNESSoENLARGEMENToPATTERNoRITUALoFLIGHToVASTNESS OR WAS"
      ++ "TINGoCONSTANCYoMEASUREoETERNITYoUNITYoDIMINISHMENToCLOSED MOUTHoGUARDEDNESSpATHERING"
      ++ " IN"),
    (0x1d340, "aTETRAGRAM FOR MASSINGoACCUMULATIONoEMBELLISHMENToDOUBToWATCHoSINKINGoINNERoDEPARTUR"
      ++ "EpARKENINGpIMMINGoEXHAUSTIONoSEVERANCEpTOPPAGEoHARDNESSoCOMPLETIONpLOSUREoFAILUREoAG"
      ++ "GRAVATIONoCOMPLIANCEoON THE VERGEoDIFFICULTIESoLABOURINGoFOSTERING"),
    (0x1d360, "aCOUNTING ROD UNIT DIGIT ONEyTWOzHREEyFOURzIVEySIXzEVENyEIGHTyNINEnTENS DIGIT ONEyTW"
      ++ "OzHREEyFOURzIVEySIXzEVENyEIGHTyNINEaIDEOGRAPHIC TALLY MARK ONExTWOyHREExFOURyIVEaTAL"
      ++ "LY MARK ONElFIVE"),
    (0x1d400, "aMATHEMATICAL BOLD CAPITAL AαBαCαDαEαFαGαHαIαJαKαLαMαNαOαPαQαRαSαTαUαVαWαXαYαZsSMALL"
      ++ " AyByCyDyEyFyGyHyIyJyKyLyMyNyOyPyQyRySyTyUyVyWyXyYyZnITALIC CAPITAL AγBγCγDγEγFγGγHγ"
      ++ "IγJγKγL"),
    (0x1d440, "aMATHEMATICAL ITALIC CAPITAL MγNγOγPγQγRγSγTγUγVγWγXγYγZuSMALL AαBαCαDαEαFαG"),
    (0x1d456, "aMATHEMATICAL ITALIC SMALL IαJαKαLαMαNαOαPαQαRαSαTαUαVαWαXαYαZnBOLD ITALIC CAPITAL A"
      ++ "θBθCθDθEθFθGθHθIθJθKθLθMθNθOθPθQθRθSθTθUθVθWθXθYθZzSMALL AζBζCζDζEζFζGζHζIζJζKζLζMζN"
      ++ "ζOζPζQζRζSζT"),
    (0x1d496, "aMATHEMATICAL BOLD ITALIC SMALL UζVζWζXζYζZnSCRIPT CAPITAL A"),
    (0x1d49e, "aMATHEMATICAL SCRIPT CAPITAL CγD"),
    (0x1d4a2, "aMATHEMATICAL SCRIPT CAPITAL G"),
    (0x1d4a5, "aMATHEMATICAL SCRIPT CAPITAL JγK"),
    (0x1d4a9, "aMATHEMATICAL SCRIPT CAPITAL NγOγPγQ"),
    (0x1d4ae, "aMATHEMATICAL SCRIPT CAPITAL SγTγUγVγWγXγYγZuSMALL AαBαCαD"),
    (0x1d4bb, "aMATHEMATICAL SCRIPT SMALL F"),
    (0x1d4bd, "aMATHEMATICAL SCRIPT SMALL HαIαJαKαLαMαN"),
    (0x1d4c5, "aMATHEMATICAL SCRIPT SMALL PαQαRαSαTαUαVαWαXαYαZnBOLD SCRIPT CAPITAL AθBθCθDθEθFθGθH"
      ++ "θIθJθKθLθMθNθOθPθQθRθSθTθUθVθWθXθYθZzSMALL AζBζCζDζEζFζGζHζIζJζKζLζMζNζOζPζQζRζSζTζU"
      ++ "ζVζWζXζYζZnFRAKTUR CAPITAL A"),
    (0x1d505, "aMATHEMATICAL FRAKTUR CAPITAL B"),
    (0x1d507, "aMATHEMATICAL FRAKTUR CAPITAL DδEδFδG"),
    (0x1d50d, "aMATHEMATICAL FRAKTUR CAPITAL JδKδLδMδNδOδPδQ"),
    (0x1d516, "aMATHEMATICAL FRAKTUR CAPITAL SδTδUδVδWδXδY"),
    (0x1d51e, "aMATHEMATICAL FRAKTUR SMALL AβBβCβDβEβFβGβHβIβJβKβLβMβNβOβPβQβRβSβTβUβVβWβXβYβZnDOUB"
      ++ "LE-STRUCK CAPITAL AκB"),
    (0x1d53b, "aMATHEMATICAL DOUBLE-STRUCK CAPITAL DκEκFκG"),
    (0x1d540, "aMATHEMATICAL DOUBLE-STRUCK CAPITAL IκJκKκLκM"),
    (0x1d546, "aMATHEMATICAL DOUBLE-STRUCK CAPITAL O"),
    (0x1d54a, "aMATHEMATICAL DOUBLE-STRUCK CAPITAL SκTκUκVκWκXκY"),
    (0x1d552, "aMATHEMATICAL DOUBLE-STRUCK SMALL AθBθCθDθEθFθGθHθIθJθKθLθMθNθOθPθQθRθSθTθUθVθWθXθYθ"
      ++ "ZnBOLD FRAKTUR CAPITAL AιBιCιDιEιFιGιHιIιJιKιLιMιNιOιPιQιRιSιTιUιVιWιXιYιZαSMALL AηB"
      ++ "ηCηDηEηFηGηHηIηJηKηL"),
    (0x1d592, "aMATHEMATICAL BOLD FRAKTUR SMALL MηNηOηPηQηRηSηTηUηVηWηXηYηZnSANS-SERIF CAPITAL AηBη"
      ++ "CηDηEηFηGηHηIηJηKηLηMηNηOηPηQηRηSηTηUηVηWηXηYηZySMALL AεBεCεDεEεFεGεHεIεJεKεLεMεNεOε"
      ++ "PεQεRεSεTεUεVεWεX"),
    (0x1d5d2, "aMATHEMATICAL SANS-SERIF SMALL YεZyBOLD CAPITAL AμBμCμDμEμFμGμHμIμJμKμLμMμNμOμPμQμRμ"
      ++ "SμTμUμVμWμXμYμZδSMALL AκBκCκDκEκFκGκHκIκJκKκLκMκNκOκPκQκRκSκTκUκVκWκXκYκZyITALIC CAP"
      ++ "ITAL AξBξCξDξEξFξGξHξIξJ"),
    (0x1d612, "aMATHEMATICAL SANS-SERIF ITALIC CAPITAL KξLξMξNξOξPξQξRξSξTξUξVξWξXξYξZζSMALL AμBμCμ"
      ++ "DμEμFμGμHμIμJμKμLμMμNμOμPμQμRμSμTμUμVμWμXμYμZyBOLD ITALIC CAPITAL AτBτCτDτEτFτGτHτIτ"
      ++ "JτKτLτMτNτOτPτQτRτSτTτUτV"),
    (0x1d652, "aMATHEMATICAL SANS-SERIF BOLD ITALIC CAPITAL WτXτYτZλSMALL AρBρCρDρEρFρGρHρIρJρKρLρM"
      ++ "ρNρOρPρQρRρSρTρUρVρWρXρYρZnMONOSPACE CAPITAL AζBζCζDζEζFζGζHζIζJζKζLζMζNζOζPζQζRζSζT"
      ++ "ζUζVζWζXζYζZxSMALL AδBδCδDδEδFδGδH"),
    (0x1d692, "aMATHEMATICAL MONOSPACE SMALL IδJδKδLδMδNδOδPδQδRδSδTδUδVδWδXδYδZnITALIC SMALL DOTLE"
      ++ "SS IιJ"),
    (0x1d6a8, "aMATHEMATICAL BOLD CAPITAL ALPHAαBETAαGAMMAαDELTAαEPSILONαZETAαETAαTHETAαIOTAαKAPPAα"
      ++ "LAMDAαMUαNUαXIαOMICRONαPIαRHOαTHETA SYMBOLαSIGMAαTAUαUPSILONαPHIαCHIαPSIαOMEGAsNABLA"
      ++ "sSMALL ALPHAyBETAyGAMMAyDELTAyEPSILONyZETAyETAyTHETAyIOTAyKAPPAyLAMDAyMUyNUyXIyOMICR"
      ++ "ONyPIyRHOyFINAL SIGMAySIGMAyTAUyUPSILONyPHIyCHIyPSIyOMEGAsPARTIAL DIFFERENTIALsEPSIL"
      ++ "ON SYMBOLsTHETA SYMBOLsKAPPA SYMBOLsPHI SYMBOLsRHO SYMBOLsPI SYMBOLnITALIC CAPITAL A"
      ++ "LPHAγBETAγGAMMAγDELTAγEPSILONγZETA"),
    (0x1d6e8, "aMATHEMATICAL ITALIC CAPITAL ETAγTHETAγIOTAγKAPPAγLAMDAγMUγNUγXIγOMICRONγPIγRHOγTHET"
      ++ "A SYMBOLγSIGMAγTAUγUPSILONγPHIγCHIγPSIγOMEGAuNABLAuSMALL ALPHAαBETAαGAMMAαDELTAαEPSI"
      ++ "LONαZETAαETAαTHETAαIOTAαKAPPAαLAMDAαMUαNUαXIαOMICRONαPIαRHOαFINAL SIGMAαSIGMAαTAUαUP"
      ++ "SILONαPHIαCHIαPSIαOMEGAuPARTIAL DIFFERENTIALuEPSILON SYMBOLuTHETA SYMBOLuKAPPA SYMBO"
      ++ "LuPHI SYMBOLuRHO SYMBOLuPI SYMBOLnBOLD ITALIC CAPITAL ALPHAθBETAθGAMMAθDELTAθEPSILON"
      ++ "θZETAθETAθTHETAθIOTAθKAPPAθLAMDAθMU"),
    (0x1d728, "aMATHEMATICAL BOLD ITALIC CAPITAL NUθXIθOMICRONθPIθRHOθTHETA SYMBOLθSIGMAθTAUθUPSILO"
      ++ "NθPHIθCHIθPSIθOMEGAzNABLAzSMALL ALPHAζBETAζGAMMAζDELTAζEPSILONζZETAζETAζTHETAζIOTAζK"
      ++ "APPAζLAMDAζMUζNUζXIζOMICRONζPIζRHOζFINAL SIGMAζSIGMAζTAUζUPSILONζPHIζCHIζPSIζOMEGAzP"
      ++ "ARTIAL DIFFERENTIALzEPSILON SYMBOLzTHETA SYMBOLzKAPPA SYMBOLzPHI SYMBOLzRHO SYMBOLzP"
      ++ "I SYMBOLnSANS-SERIF BOLD CAPITAL ALPHAμBETAμGAMMAμDELTAμEPSILONμZETAμETAμTHETAμIOTAμ"
      ++ "KAPPAμLAMDAμMUμNUμXIμOMICRONμPIμRHOμTHETA SYMBOL"),
    (0x1d768, "aMATHEMATICAL SANS-SERIF BOLD CAPITAL SIGMAμTAUμUPSILONμPHIμCHIμPSIμOMEGAδNABLAδSMAL"
      ++ "L ALPHAκBETAκGAMMAκDELTAκEPSILONκZETAκETAκTHETAκIOTAκKAPPAκLAMDAκMUκNUκXIκOMICRONκPI"
      ++ "κRHOκFINAL SIGMAκSIGMAκTAUκUPSILONκPHIκCHIκPSIκOMEGAδPARTIAL DIFFERENTIALδEPSILON SY"
      ++ "MBOLδTHETA SYMBOLδKAPPA SYMBOLδPHI SYMBOLδRHO SYMBOLδPI SYMBOLδITALIC CAPITAL ALPHAτ"
      ++ "BETAτGAMMAτDELTAτEPSILONτZETAτETAτTHETAτIOTAτKAPPAτLAMDAτMUτNUτXIτOMICRONτPIτRHOτTHE"
      ++ "TA SYMBOLτSIGMAτTAUτUPSILONτPHIτCHIτPSI"),
    (0x1d7a8, "aMATHEMATICAL SANS-SERIF BOLD ITALIC CAPITAL OMEGAλNABLAλSMALL ALPHAρBETAρGAMMAρDELT"
      ++ "AρEPSILONρZETAρETAρTHETAρIOTAρKAPPAρLAMDAρMUρNUρXIρOMICRONρPIρRHOρFINAL SIGMAρSIGMAρ"
      ++ "TAUρUPSILONρPHIρCHIρPSIρOMEGAλPARTIAL DIFFERENTIALλEPSILON SYMBOLλTHETA SYMBOLλKAPPA"
      ++ " SYMBOLλPHI SYMBOLλRHO SYMBOLλPI SYMBOLnBOLD CAPITAL DIGAMMAsSMALL DIGAMMA"),
    (0x1d7ce, "aMATHEMATICAL BOLD DIGIT ZEROyONEyTWOzHREEyFOURzIVEySIXzEVENyEIGHTyNINEnDOUBLE-STRUC"
      ++ "K DIGIT ZEROθONEθTWOιHREEθFOURιIVEθSIXιEVENθEIGHTθNINEnSANS-SERIF DIGIT ZEROεONEεTWO"
      ++ "ζHREEεFOURζIVEεSIXζEVENεEIGHTεNINEyBOLD DIGIT ZEROκONEκTWOλHREEκFOURλIVEκSIXλEVENκEI"
      ++ "GHTκNINEnMONOSPACE DIGIT ZEROδONEδTWOεHREEδFOURεIVEδSIXεEVENδEIGHTδNINEaSIGNWRITING "
      ++ "HAND-FIST INDEXrCIRCLE INDEXsUP INDEXrOVAL INDEXrHINGE INDEXrANGLE INDEXrFIST INDEX "
      ++ "BENTrCIRCLE INDEX BENTrFIST THUMB UNDER INDEX BENTwINDEX RAISED KNUCKLEγCUPPEDγHINGE"
      ++ "Dι LOWrCIRCLE INDEX HINGE"),
    (0x1d80e, "aSIGNWRITING HAND-FIST INDEX MIDDLErCIRCLE INDEX MIDDLErFIST INDEX MIDDLE BENTκRAISE"
      ++ "D KNUCKLESκHINGEDγUP MIDDLE HINGEDγHINGED MIDDLE UPγMIDDLE CONJOINEDτ INDEX BENTυMID"
      ++ "DLE BENTυCUPPEDυHINGEDλROSSEDrCIRCLE INDEX MIDDLE CROSSEDrFIST MIDDLE BENT OVER INDE"
      ++ "XwINDEX BENT OVER MIDDLEγMIDDLE THUMBrCIRCLE INDEX MIDDLE THUMBrFIST INDEX MIDDLE ST"
      ++ "RAIGHT THUMB BENTκBENT THUMB STRAIGHTκTHUMB BENTκHINGED SPREAD THUMB SIDEγUP MIDDLE "
      ++ "HINGED THUMB SIDEωB CONJOINEDγHINGED MIDDLE UP THUMB SIDEγMIDDLE UP SPREAD THUMB FOR"
      ++ "WARDκTHUMB CUPPEDρIRCLEDπHOOKEDρINGEDwTHUMB BETWEEN INDEX MIDDLE STRAIGHTwINDEX MIDD"
      ++ "LE CONJOINED THUMB SIDEωB SIDE CONJOINEDωB SIDE BENTwMIDDLE THUMB HOOKED INDEX UPwIN"
      ++ "DEX THUMB HOOKED MIDDLE UPγMIDDLE CONJOINED HINGED THUMB SIDEλROSSED THUMB SIDEλONJO"
      ++ "INED THUMB FORWARDυCUPPED THUMB FORWARDwMIDDLE THUMB CUPPED INDEX UPwINDEX THUMB CUP"
      ++ "PED MIDDLE UPwMIDDLE THUMB CIRCLED INDEX UPωHINGEDwINDEX THUMB ANGLED OUT MIDDLE UPπ"
      ++ "IN MIDDLE UPιCIRCLED MIDDLE UPγMIDDLE THUMB CONJOINED HINGEDπANGLED OUTχwMIDDLE THUM"
      ++ "B ANGLED OUT INDEX UPωEX CROSSEDρINDEX UPwINDEX THUMB HOOKED MIDDLE HINGEDsLAT FOUR "
      ++ "FINGERSι BENTκHINGEDκCONJOINEDτ SPLITrCLAW FOUR FINGERS CONJOINEDrFIST FOUR FINGERS "
      ++ "CONJOINED BENTrHINGE FOUR FINGERS CONJOINEDrFLAT FIVE FINGERS SPREADwHEEL FIVE FINGE"
      ++ "RS SPREAD"),
    (0x1d84e, "aSIGNWRITING HAND-FLAT FIVE FINGERS SPREAD FOUR BENTwHEEL FIVE FINGERS SPREAD FOUR B"
      ++ "ENTwFIVE FINGERS SPREAD BENTwHEEL FIVE FINGERS SPREAD BENTwFIVE FINGERS SPREAD THUMB"
      ++ " FORWARDrCUP FIVE FINGERS SPREADο OPENrHINGE FIVE FINGERS SPREAD OPENrOVAL FIVE FING"
      ++ "ERS SPREADrFLAT FIVE FINGERS SPREAD HINGEDψ THUMB SIDEωNO THUMBvv BETWEEN PALM FACIN"
      ++ "GSwHEELwTHUMB SIDEwHEEL THUMB SIDEwTHUMB BENTγFORWARDwSPLIT INDEX THUMB SIDEγCENTREι"
      ++ " THUMB SIDEυ BENTγLITTLErCLAWv THUMB SIDEwNO THUMBwTHUMB FORWARDrHOOK CURLICUEvrCUP "
      ++ "OPENuu OPEN THUMB SIDEvTHUMB SIDEvOPEN NO THUMBvNO THUMBvOPEN THUMB FORWARDvTHUMB FO"
      ++ "RWARDtRLICUE OPENzsIRCLErOVALv THUMB SIDEwNO THUMBwTHUMB FORWARDrHINGE OPENβ THUMB F"
      ++ "ORWARDww SMALLxOPEN THUMB SIDExTHUMB SIDExOPEN NO THUMBxNO THUMBxTHUMB SIDE TOUCHING"
      ++ " INDEXδBETWEEN MIDDLE RINGrANGLErFIST INDEX MIDDLE RINGrCIRCLE INDEX MIDDLE RINGrHIN"
      ++ "GE INDEX MIDDLE RINGrANGLE INDEX MIDDLE RINGrHINGE LITTLErFIST INDEX MIDDLE RING BEN"
      ++ "TοCONJOINEDrHINGE INDEX MIDDLE RING CONJOINED"),
    (0x1d88e, "aSIGNWRITING HAND-FIST LITTLE DOWNθ RIPPLE STRAIGHTπCURVEDιOTHERS CIRCLEDδUPwTHUMB U"
      ++ "NDER LITTLE UPrCIRCLE LITTLE UPrOVAL LITTLE UPrANGLE LITTLE UPrFIST LITTLE RAISED KN"
      ++ "UCKLEδBENTδTOUCHES THUMBεHUMBrHINGE LITTLE THUMBrFIST LITTLE INDEX THUMBrHINGE LITTL"
      ++ "E INDEX THUMBrANGLE LITTLE INDEX THUMB INDEX THUMB OUTωHUMBrFIST LITTLE INDEXrCIRCLE"
      ++ " LITTLE INDEXrHINGE LITTLE INDEXrANGLE LITTLE INDEXrFIST INDEX MIDDLE LITTLErCIRCLE "
      ++ "INDEX MIDDLE LITTLErHINGE INDEX MIDDLE LITTLExRINGrANGLE INDEX MIDDLE LITTLErFIST IN"
      ++ "DEX MIDDLE CROSS LITTLErCIRCLE INDEX MIDDLE CROSS LITTLErFIST RING DOWNrHINGE RING D"
      ++ "OWN INDEX THUMB HOOK MIDDLErANGLE RING DOWN MIDDLE THUMB INDEX CROSSrFIST RING UPβRA"
      ++ "ISED KNUCKLEβLITTLErCIRCLE RING LITTLErOVAL RING LITTLErANGLE RING LITTLErFIST RING "
      ++ "MIDDLEθ CONJOINEDιRAISED KNUCKLESβINDEXβTHUMBrHOOK RING THUMBrFIST INDEX RING LITTLE"
      ++ "rCIRCLE INDEX RING LITTLEsURLICUE INDEX RING LITTLE ONrHOOK INDEX RING LITTLE OUTοIN"
      ++ "οUNDERrCUP INDEX RING LITTLErHINGE INDEX RING LITTLErANGLE INDEX RING LITTLE OUTοrFI"
      ++ "ST MIDDLE DOWNrHINGE MIDDLErFIST MIDDLE UPrCIRCLE MIDDLE UPrFIST MIDDLE RAISED KNUCK"
      ++ "LEδUP THUMB SIDErHOOK MIDDLE THUMBrFIST MIDDLE THUMB LITTLEδLITTLEδRING LITTLE"),
    (0x1d8ce, "aSIGNWRITING HAND-CIRCLE MIDDLE RING LITTLEsURLICUE MIDDLE RING LITTLE ONtP MIDDLE R"
      ++ "ING LITTLErHINGE MIDDLE RING LITTLErANGLE MIDDLE RING LITTLE OUTρINπrCIRCLE MIDDLE R"
      ++ "ING LITTLE BENTsLAW MIDDLE RING LITTLE CONJOINEDωD SIDErHOOK MIDDLE RING LITTLE CONJ"
      ++ "OINED OUTωD INωDsINGE INDEX HINGEDrFIST INDEX THUMB SIDErHINGE INDEX THUMB SIDErFIST"
      ++ " INDEX THUMB SIDE THUMB DIAGONALυCONJOINEDυBENTξINDEX BENTξBOTH BENTξINDEX HINGEιFOR"
      ++ "WARD INDEX STRAIGHTψBENTιHOOKιCURLICUEμVE THUMB INSIDErCLAW INDEX THUMB CURVE THUMB "
      ++ "INSIDErFIST INDEX THUMB CURVE THUMB UNDERκIRCLErCUP INDEX THUMBη OPENrHINGE INDEX TH"
      ++ "UMB OPENκLARGEιι SMALLrANGLE INDEX THUMB OUTκINιrFIST THUMBβ HEELγSIDE DIAGONALθCONJ"
      ++ "OINEDθBENTγFORWARDγBETWEEN INDEX MIDDLEλMIDDLE RINGλRING LITTLEγUNDER TWO FINGERSγOV"
      ++ "ER TWO FINGERSγUNDER THREE FINGERSιFOUR FINGERSγOVER FOUR RAISED KNUCKLESvv HEELmTOU"
      ++ "CH SINGLEsMULTIPLEsBETWEENmGRASP SINGLEsMULTIPLEsBETWEENmSTRIKE SINGLEtMULTIPLEtBETW"
      ++ "EEN"),
    (0x1d90e, "aSIGNWRITING BRUSH SINGLEsMULTIPLEsBETWEENmRUB SINGLEqMULTIPLEqBETWEENmSURFACE SYMBO"
      ++ "LSuBETWEENnQUEEZE LARGE SINGLEuSMALL SINGLEuLARGE MULTIPLEuSMALL MULTIPLEvEQUENTIALm"
      ++ "FLICK LARGE SINGLEsSMALL SINGLEsLARGE MULTIPLEsSMALL MULTIPLEtEQUENTIALmSQUEEZE FLIC"
      ++ "K ALTERNATINGmMOVEMENT-HINGE UP DOWN LARGEκSMALLεSEQUENTIALβDOWN SEQUENTIALβUP DOWN "
      ++ "ALTERNATING LARGEχSMALLβSIDE TO SIDE SCISSORSvWALLPLANE FINGER CONTACTvFLOORPLANE FI"
      ++ "NGER CONTACTvWALLPLANE SINGLE STRAIGHT SMALLχMEDIUMχLARGEωRGESTνWRIST FLEXζDOUBLE ST"
      ++ "RAIGHTνWRIST FLEXνALTERNATINGω WRIST FLEXζCROSSζTRIPLE STRAIGHT MOVEMENTνWRIST FLEXν"
      ++ "ALTERNATINGω WRIST FLEXζBEND SMALLλMEDIUMλLARGEζCORNER SMALLνMEDIUMνLARGEνROTATIONηH"
      ++ "ECK SMALLμMEDIUMμLARGEζBOX SMALLκMEDIUMκLARGEζZIGZAG SMALLνMEDIUMνLARGEζPEAKS SMALLμ"
      ++ "MEDIUMμLARGEmTRAVEL-WALLPLANE ROTATION-WALLPLANE SINGLEψDOUBLEψALTERNATING"),
    (0x1d94e, "aSIGNWRITING TRAVEL-WALLPLANE ROTATION-FLOORPLANE SINGLEωDOUBLEωALTERNATINGδSHAKINGδ"
      ++ "ARM SPIRAL SINGLEοDOUBLEοTRIPLEmMOVEMENT-DIAGONAL AWAY SMALLκMEDIUMκLARGEοSTεTOWARDS"
      ++ " SMALLνMEDIUMνLARGEσSTεBETWEEN AWAY SMALLσMEDIUMσLARGEψSTνTOWARDS SMALLφMEDIUMφLARGE"
      ++ "ωGESTvFLOORPLANE SINGLE STRAIGHT SMALLψMEDIUMψLARGEωARGESTξWRIST FLEXηDOUBLE STRAIGH"
      ++ "TξWRIST FLEXξALTERNATINGωG WRIST FLEXηCROSSηTRIPLE STRAIGHT MOVEMENTξWRIST FLEXξALTE"
      ++ "RNATING MOVEMENTωG WRIST FLEXηBENDηCORNER SMALLξMEDIUMξLARGEθHECKηBOX SMALLλMEDIUMλL"
      ++ "ARGEηZIGZAG SMALLξMEDIUMξLARGEηPEAKS SMALLνMEDIUMνLARGEmTRAVEL-FLOORPLANE ROTATION-F"
      ++ "LOORPLANE SINGLEω DOUBLEω ALTERNATINGξWALLPLANE SINGLEωDOUBLEωALTERNATINGεSHAKINGmMO"
      ++ "VEMENT-WALLPLANE CURVE QUARTER SMALLυMEDIUMυLARGEωESTμHALF-CIRCLE SMALLωMEDIUM"),
    (0x1d98e, "aSIGNWRITING MOVEMENT-WALLPLANE CURVE HALF-CIRCLE LARGEωLARGESTμTHREE-QUARTER CIRCLE"
      ++ " SMALLωR CIRCLE MEDIUMζHUMP SMALLλMEDIUMλLARGEζLOOP SMALLλMEDIUMλLARGEλSMALL DOUBLEζ"
      ++ "WAVE CURVE DOUBLE SMALLωMEDIUMωLARGEρTRIPLE SMALLωMEDIUMωLARGEζCURVE THEN STRAIGHTλD"
      ++ " CROSS SMALLτMEDIUMmROTATION-WALLPLANE SINGLEζDOUBLEζALTERNATEmMOVEMENT-WALLPLANE SH"
      ++ "AKINGζCURVE HITTING FRONT WALLζHUMP HITTING FRONT WALLζLOOP HITTING FRONT WALLζWAVE "
      ++ "HITTING FRONT WALLmROTATION-WALLPLANE SINGLE HITTING FRONT WALLζDOUBLE HITTING FRONT"
      ++ " WALLζALTERNATING HITTING FRONT WALLmMOVEMENT-WALLPLANE CURVE HITTING CHESTζHUMP HIT"
      ++ "TING CHESTζLOOP HITTING CHESTζWAVE HITTING CHESTmROTATION-WALLPLANE SINGLE HITTING C"
      ++ "HESTζDOUBLE HITTING CHESTζALTERNATING HITTING CHESTmMOVEMENT-WALLPLANE WAVE DIAGONAL"
      ++ " PATH SMALLω MEDIUMω LARGEvFLOORPLANE CURVE HITTING CEILING SMALLωLING LARGEηHUMP HI"
      ++ "TTING CEILING SMALL DOUBLEωING LARGE DOUBLEωING SMALL TRIPLEωING LARGE TRIPLEηLOOP H"
      ++ "ITTING CEILING SMALL SINGLEωING LARGE SINGLEωING SMALL DOUBLEωING LARGE DOUBLEηWAVE "
      ++ "HITTING CEILING SMALLωING LARGEmROTATION-FLOORPLANE SINGLE HITTING CEILINGηDOUBLE HI"
      ++ "TTING CEILINGηALTERNATING HITTING CEILINGmMOVEMENT-FLOORPLANE CURVE HITTING FLOOR SM"
      ++ "ALLωOR LARGEηHUMP HITTING FLOOR SMALL DOUBLEωR LARGE DOUBLEωR TRIPLE SMALL TRIPLEωR "
      ++ "TRIPLE LARGE TRIPLEηLOOP HITTING FLOOR SMALL SINGLEωR LARGE SINGLE"),
    (0x1d9ce, "aSIGNWRITING MOVEMENT-FLOORPLANE LOOP HITTING FLOOR SMALL DOUBLEωR LARGE DOUBLEηWAVE"
      ++ " HITTING FLOOR SMALLωR LARGEmROTATION-FLOORPLANE SINGLE HITTING FLOORηDOUBLE HITTING"
      ++ " FLOORηALTERNATING HITTING FLOORmMOVEMENT-FLOORPLANE CURVE SMALLνMEDIUMνLARGEσSTνCOM"
      ++ "BINEDηHUMP SMALLηLOOP SMALLηWAVE SNAKEνMALLμLARGEmROTATION-FLOORPLANE SINGLEηDOUBLEη"
      ++ "ALTERNATINGmMOVEMENT-FLOORPLANE SHAKING PARALLELvWALLPLANE ARM CIRCLE SMALL SINGLEρM"
      ++ "EDIUM SINGLEρSMALL DOUBLEρMEDIUM DOUBLEvFLOORPLANE ARM CIRCLE HITTING WALL SMALL SIN"
      ++ "GLEωG WALL MEDIUM SINGLEωG WALL LARGE SINGLEωG WALL SMALL DOUBLEωG WALL MEDIUM DOUBL"
      ++ "EωG WALL LARGE DOUBLEvWALLPLANE WRIST CIRCLE FRONT SINGLEω DOUBLEvFLOORPLANE WRIST C"
      ++ "IRCLE HITTING WALL SINGLEωING WALL DOUBLEvWALLPLANE FINGER CIRCLES SINGLEφDOUBLEvFLO"
      ++ "ORPLANE FINGER CIRCLES HITTING WALL SINGLEωTTING WALL DOUBLEmDYNAMIC ARROWHEAD SMALL"
      ++ "εLARGEuFASTuSLOWuTENSEuRELAXEDuSIMULTANEOUSη ALTERNATINGuEVERY OTHER TIMEuGRADUALmHE"
      ++ "ADq RIMrMOVEMENT-WALLPLANE STRAIGHTλTILTαFLOORPLANE STRAIGHTαWALLPLANE CURVEαFLOORPL"
      ++ "ANE CURVEz CIRCLEmFACE DIRECTION POSITION NOSE FORWARD TILTINGπUP OR DOWNωWN TILTING"
      ++ "mEYEBROWS STRAIGHT UPεNEUTRALεDOWNmDREAMY EYEBROWS NEUTRAL DOWN"),
    (0x1da0e, "aSIGNWRITING DREAMY EYEBROWS DOWN NEUTRALγUP NEUTRALγNEUTRAL UPmFOREHEAD NEUTRALvCON"
      ++ "TACTvWRINKLEDmEYES OPENrSQUEEZEDrCLOSEDp BLINK SINGLEwMULTIPLEpS HALF OPENrWIDE OPEN"
      ++ "rHALF CLOSEDrWIDENING MOVEMENTp WINKpLASHES UPwDOWNwFLUTTERINGpGAZE-WALLPLANE STRAIG"
      ++ "HTν DOUBLEξALTERNATINGuFLOORPLANE STRAIGHTξ DOUBLEοALTERNATINGuWALLPLANE CURVEDuFLOO"
      ++ "RPLANE CURVEDuWALLPLANE CIRCLINGmCHEEKS PUFFEDtNEUTRALtSUCKEDmTENSE CHEEKS HIGHzMIDD"
      ++ "LEzLOWmEARSmNOSE NEUTRALrCONTACTrWRINKLESsIGGLESmAIR BLOWING OUTqSUCKING INqBLOW SMA"
      ++ "LL ROTATIONSqSUCK SMALL ROTATIONSmBREATH INHALEtEXHALEmMOUTH CLOSED NEUTRALzFORWARDz"
      ++ "CONTACTsSMILEx WRINKLEDyOPENsFROWNx WRINKLEDyOPENsOPEN CIRCLExFORWARDxWRINKLEDxOVALβ"
      ++ " WRINKLEDγYAWNxRECTANGLEη WRINKLEDθYAWNsKISS"),
    (0x1da4e, "aSIGNWRITING MOUTH KISS FORWARDxWRINKLEDsTENSEx FORWARDySUCKEDmLIPS PRESSED TOGETHER"
      ++ "p LOWER OVER UPPERqUPPER OVER LOWERmMOUTH CORNERSsWRINKLES SINGLEβDOUBLEmTONGUE STIC"
      ++ "KING OUT FARtLICKING LIPStTIP BETWEEN LIPSxTOUCHING INSIDE MOUTHtINSIDE MOUTH RELAXE"
      ++ "DtMOVES AGAINST CHEEKtCENTRE STICKING OUTαINSIDE MOUTHnEETHr MOVEMENTsON TONGUEβ MOV"
      ++ "EMENTvLIPSz MOVEMENTsBITE LIPSmMOVEMENT-WALLPLANE JAWvFLOORPLANE JAWmNECKmHAIRmEXCIT"
      ++ "EMENTmSHOULDER HIP SPINEzPOSITIONSmWALLPLANE SHOULDER HIP MOVEmFLOORPLANE SHOULDER H"
      ++ "IP MOVEmSHOULDER TILTING FROM WAISTmTORSO-WALLPLANE STRAIGHT STRETCHγCURVED BENDsFLO"
      ++ "ORPLANE TWISTINGmUPPER BODY TILTING FROM HIP JOINTSmLIMB COMBINATIONrLENGTH-1y2y3y4y"
      ++ "5y6y7mFINGERmLOCATION-WALLPLANE SPACEvFLOORPLANE SPACEu HEIGHTvWIDTHvDEPTHvHEAD NECK"
      ++ "vTORSOvLIMBS DIGITSmCOMMAmFULL STOPmSEMICOLONmCOLONmPARENTHESIS"),
    (0x1da9b, "aSIGNWRITING FILL MODIFIER-2α3α4α5α6"),
    (0x1daa1, "aSIGNWRITING ROTATION MODIFIER-2ε3ε4ε5ε6ε7ε8ε9ε10ζ1ζ2ζ3ζ4ζ5ζ6"),
    (0x1df00, "aLATIN SMALL LETTER FENG DIGRAPH WITH TRILLtREVERSED SCRIPT GgLETTER SMALL CAPITAL T"
      ++ "URNED GgSMALL LETTER REVERSED KgLETTER SMALL CAPITAL L WITH BELTgSMALL LETTER LEZH W"
      ++ "ITH RETROFLEX HOOKtTURNED Y WITH BELTtREVERSED ENGtTURNED R WITH LONG LEG AND RETROF"
      ++ "LEX HOOKu WITH HOOK AND RETROFLEX HOOKgLETTER RETROFLEX CLICK WITH RETROFLEX HOOKgSM"
      ++ "ALL LETTER ESH WITH DOUBLE BARν AND CURLtTURNED T WITH CURLgLETTER INVERTED GLOTTAL "
      ++ "STOP WITH CURLnSTRETCHED C WITH CURLoMALL CAPITAL TURNED KgSMALL LETTER L WITH FISHH"
      ++ "OOKtDEZH DIGRAPH WITH PALATAL HOOKtL WITH BELT AND PALATAL HOOKtENG WITH PALATAL HOO"
      ++ "KtTURNED R WITH PALATAL HOOKtR WITH FISHHOOK AND PALATAL HOOKtTESH DIGRAPH WITH PALA"
      ++ "TAL HOOKtEZH WITH PALATAL HOOKtDEZH DIGRAPH WITH RETROFLEX HOOKtI WITH STROKE AND RE"
      ++ "TROFLEX HOOKtO WITH RETROFLEX HOOKtTESH DIGRAPH WITH RETROFLEX HOOKtC WITH RETROFLEX"
      ++ " HOOKtS WITH CURL"),
    (0x1e000, "aCOMBINING GLAGOLITIC LETTER AZUγBUKYγVEDEγGLAGOLIγDOBROγYESTUγZHIVETE"),
    (0x1e008, "aCOMBINING GLAGOLITIC LETTER ZEMLJAγIZHEδNITIAL IZHEδγDJERVIγKAKOγLJUDIJEγMYSLITEγNA"
      ++ "SHIγONUγPOKOJIγRITSIγSLOVOγTVRIDOγUKUγFRITUγHERU"),
    (0x1e01b, "aCOMBINING GLAGOLITIC LETTER SHTAγTSIγCHRIVIγSHAγYERUζIδATI"),
    (0x1e023, "aCOMBINING GLAGOLITIC LETTER YUγSMALL YUS"),
    (0x1e026, "aCOMBINING GLAGOLITIC LETTER YOγIOTATED SMALL YUSγBIG YUSγIOTATED BIG YUSγFITA"),
    (0x1e100, "aNYIAKENG PUACHUE HMONG LETTER MAεTSAεNTAεTAεHAεNAεXAεNKAεCAεLAεSAεZAεNCAζTSAεKAεDAε"
      ++ "NYAζRAεVAεNTXAεTXAεFAεRAεQAεYAεNQAεPAεXYAεNPAεDLAεNPLAεHAHεMLAεPLAεGAεRRAεAζAεIεUεOζ"
      ++ "OεEζEεW"),
    (0x1e130, "aNYIAKENG PUACHUE HMONG TONE-BγMγJγVγSγGγDxSIGN FOR PERSONηTHINGηLOCATIONηANIMALηINV"
      ++ "ERTEBRATEγXW XWyYLLABLE LENGTHENER"),
    (0x1e140, "aNYIAKENG PUACHUE HMONG DIGIT ZEROδONEδTWOεHREEδFOURεIVEδSIXεEVENδEIGHTδNINE"),
    (0x1e14e, "aNYIAKENG PUACHUE HMONG LOGOGRAM NYAJxCIRCLED CA"),
    (0x1e290, "aTOTO LETTER PAmBAmTAmDAmKAmGAmMAmNAnGAmSAmCHAmYAmWAmJAmHAmRAmLAmImBREATHY ImIUmBREA"
      ++ "THY IUmUmEmBREATHY EmEOmBREATHY EOmOmAEmBREATHY AEmAfSIGN RISING TONE"),
    (0x1e2c0, "aWANCHO LETTER AApoBAoCAoDAoGAoYAoPHAoLAoNAoPAoTApHAoFAoSApHAoJAoZAoWAoVAoKAoOoAUoRA"
      ++ "oMAoKHAoHAoEoIoNGAoUoLLHAoTSApRAoONGoAANGpNGoINGoONoENoAANoNYAoUENoYIHhTONE TUPpNImK"
      ++ "OIpNIhDIGIT ZEROnONEnTWOoHREEnFOURoIVEnSIXoEVENnEIGHTnNINE"),
    (0x1e2ff, "aWANCHO NGUN SIGN"),
    (0x1e7e0, "aETHIOPIC SYLLABLE HHYAvUvIvAAvEEwvO"),
    (0x1e7e8, "aETHIOPIC SYLLABLE GURAGE HHWAsHHWIvEEw"),
    (0x1e7ed, "aETHIOPIC SYLLABLE GURAGE MWIβEE"),
    (0x1e7f0, "aETHIOPIC SYLLABLE GURAGE QWIβEEγzBWIβEEzKWIβEEγzGWIβEEγzFWIβEEzPWIβEE"),
    (0x1e800, "aMENDE KIKAKUI SYLLABLE M001 KIα2 KAα3 KUz65 KEEz95 KEz76 KOOz48 KOy179 KUAy004 WIα5"
      ++ " WAα6 WUy126 WEEz18 WEα4 WOOy045 WOy194 WUIz43 WEIy061 WVIz49 WVAy139 WVEy007 MINα8 "
      ++ "MANα9 MUNz59 MENz94 MONy154 MUANz89 MUENy010 BIα1 BAα2 BUy150 BEEy097 BEy103 BOOz38 "
      ++ "BOy013 Iα4 Aα5 Uy163 EEz00 Ez65 OOz47 Oz37 EIα1 INα5 INz95 ANz78 ENy019 SIz20 SAα1 S"
      ++ "Uy162 SEEz16 SEz36 SOOy079 SOy196 SIAy025 LIα6 LAα7 LUz84 LEEz73 LEz54 LOOy153 LOz10"
      ++ " LONG LEy016 DIα7 DA"),
    (0x1e840, "aMENDE KIKAKUI SYLLABLE M018 DUz89 DEEy180 DOOα1 DOy022 TIα3 TAα4 TUz91 TEEz55 TEy10"
      ++ "4 TOOy069 TOz28 JIα9 JAz30 JUy157 JEEz13 JEz60 JOOy063 JOy175 LONG JOy031 YIα2 YAα3 "
      ++ "YUy109 YEEy080 YEy141 YOOz21 YOy034 FIα5 FAα6 FUz78 FEEα5 FEy133 FOOy088 FOy197 FUAz"
      ++ "01 FANy037 NINα8 NANα9 NUNy117 NENz69 NONz76 HIy041 HAy186 HUy040 HEEz96 HEz42 HOOy1"
      ++ "40 HOy083 HEEIy128 HOOUy053 HINy130 HANy087 HUNz52 HENy193 HONy046 HUANz90 NGGIz43 N"
      ++ "GGAz82 NGGUy115 NGGEEz46 NGGEz56 NGGOOz20 NGGOz59 NGGAAz27 NGGUA"),
    (0x1e880, "aMENDE KIKAKUI SYLLABLE M086 LONG NGGEy106 LONG NGGOOz83 LONG NGGOz55 GIz11 GAz68 GU"
      ++ "z90 GEEz66 GUEIα7 GUANz84 NGENy057 NGONy177 NGUANy068 PIz99 PAz50 PUz81 PEEz51 PEy10"
      ++ "2 POOy066 POy145 MBIy062 MBAy122 MBUy047 MBEEy188 MBEEy072 MBEy172 MBOOα4 MBOz87 MBU"
      ++ "Uz61 LONG MBEz05 LONG MBOOz42 LONG MBOz32 KPIy092 KPAz74 KPUz44 KPEEy108 KPEz12 KPOO"
      ++ "z58 KPOz24 GBIy056 GBAy148 GBUy093 GBEEy107 GBEy071 GBOOα0 GBOy171 RAz23 NDIα9 NDAα5"
      ++ " NDUz91 NDEEz19 NDEy067 NDOOα4 NDOy152 NJAz92 NJUz49 NJEEz34 NJOOz82 VIα5 VAz51 VUz7"
      ++ "3 VEEy085 VEy144 VOOy077 VO"),
    (0x1e8c0, "aMENDE KIKAKUI SYLLABLE M164 NYINy058 NYANy170 NYUNy098 NYENz60 NYON"),
    (0x1e8c7, "aMENDE KIKAKUI DIGIT ONEuTWOvHREEuFOURvIVEuSIXvEVENuEIGHTuNINEoCOMBINING NUMBER TEEN"
      ++ "SθNSζHUNDREDSζTHOUSANDSηEN THOUSANDSζHUNDRED THOUSANDSζMILLIONS"),
    (0x1e900, "aADLAM CAPITAL LETTER ALIFvDAALIvLAAMvMIIMvBAvSINNYIIYHEvPEvBHEvRAvEvFAvIvOvDHAvYHEv"
      ++ "WAWvNUNvKAFvYAvUvJIIMvCHIvHAvQAAFvGAvNYAvTUvNHAvVAvKHAvGBEvZALvKPOvSHAgSMALL LETTER "
      ++ "ALIFtDAALItLAAMtMIIMtBAtSINNYIIYHEtPEtBHEtRAtEtFAtItOtDHAtYHEtWAWtNUNtKAFtYAtUtJIIMt"
      ++ "CHItHAtQAAFtGAtNYAtTUtNHAtVAtKHA"),
    (0x1e940, "aADLAM SMALL LETTER GBEtZALtKPOtSHAgALIF LENGTHENERgVOWEL LENGTHENERgGEMINATION MARK"
      ++ "gHAMZAgCONSONANT MODIFIERgGEMINATE CONSONANT MODIFIERgNUKTAhASALIZATION MARK"),
    (0x1e950, "aADLAM DIGIT ZEROmONEmTWOnHREEmFOURnIVEmSIXnEVENmEIGHTmNINE"),
    (0x1e95e, "aADLAM INITIAL EXCLAMATION MARKoQUESTION MARK"),
    (0x1ec71, "aINDIC SIYAQ NUMBER ONEtTWOuHREEtFOURuIVEtSIXuEVENtEIGHTtNINEtTENuWENTYuHIRTYtFORTYu"
      ++ "IFTYtSIXTYuEVENTYtEIGHTYtNINETYtONE HUNDREDtTWO HUNDREDuHREE HUNDREDtFOUR HUNDREDuIV"
      ++ "E HUNDREDtSIX HUNDREDuEVEN HUNDREDtEIGHT HUNDREDtNINE HUNDREDtONE THOUSANDtTWO THOUS"
      ++ "ANDuHREE THOUSANDtFOUR THOUSANDuIVE THOUSANDtSIX THOUSANDuEVEN THOUSANDtEIGHT THOUSA"
      ++ "NDtNINE THOUSANDtTEN THOUSANDuWENTY THOUSANDuHIRTY THOUSANDtFORTY THOUSANDuIFTY THOU"
      ++ "SANDtSIXTY THOUSANDuEVENTY THOUSANDtEIGHTY THOUSANDtNINETY THOUSANDtLAKHxANmLAKH MAR"
      ++ "KmNUMBER KARORyANtPREFIXED ONEγTWOδHREEγFOURδIVEγSIXδEVENγEIGHTγNINEmPLACEHOLDERmFRA"
      ++ "CTION ONE QUARTERzHALFvTHREE QUARTERSmRUPEE MARK"),
    (0x1ecb1, "aINDIC SIYAQ NUMBER ALTERNATE ONEδTWOεEN THOUSANDmALTERNATE LAKH MARK"),
    (0x1ed01, "aOTTOMAN SIYAQ NUMBER ONEvTWOwHREEvFOURwIVEvSIXwEVENvEIGHTvNINEvTENwWENTYwHIRTYvFORT"
      ++ "YwIFTYvSIXTYwEVENTYvEIGHTYvNINETYvONE HUNDREDvTWO HUNDREDwHREE HUNDREDvFOUR HUNDREDw"
      ++ "IVE HUNDREDvSIX HUNDREDwEVEN HUNDREDvEIGHT HUNDREDvNINE HUNDREDvONE THOUSANDvTWO THO"
      ++ "USANDwHREE THOUSANDvFOUR THOUSANDwIVE THOUSANDvSIX THOUSANDwEVEN THOUSANDvEIGHT THOU"
      ++ "SANDvNINE THOUSANDvTEN THOUSANDwWENTY THOUSANDwHIRTY THOUSANDvFORTY THOUSANDwIFTY TH"
      ++ "OUSANDvSIXTY THOUSANDwEVENTY THOUSANDvEIGHTY THOUSANDvNINETY THOUSANDoMARRATANoALTER"
      ++ "NATE NUMBER TWOηHREEζFOURηIVEζSIXηEVENζEIGHTζNINEζTENζFOUR HUNDREDζSIX HUNDREDζTWO T"
      ++ "HOUSANDηEN THOUSANDoFRACTION ONE HALFβSIXTH"),
    (0x1ee00, "aARABIC MATHEMATICAL ALEFuBEHuJEEMuDAL"),
    (0x1ee05, "aARABIC MATHEMATICAL WAWuZAINuHAHuTAHuYEHuKAFuLAMuMEEMuNOONuSEENuAINuFEHuSADuQAFuREH"
      ++ "uSHEENuTEHvHEHuKHAHuTHALuDADuZAHuGHAINuDOTLESS BEHγNOONγFEHγQAF"),
    (0x1ee21, "aARABIC MATHEMATICAL INITIAL BEHγJEEM"),
    (0x1ee24, "aARABIC MATHEMATICAL INITIAL HEH"),
    (0x1ee27, "aARABIC MATHEMATICAL INITIAL HAH"),
    (0x1ee29, "aARABIC MATHEMATICAL INITIAL YEHγKAFγLAMγMEEMγNOONγSEENγAINγFEHγSADγQAF"),
    (0x1ee34, "aARABIC MATHEMATICAL INITIAL SHEENγTEHδHEHγKHAH"),
    (0x1ee39, "aARABIC MATHEMATICAL INITIAL DAD"),
    (0x1ee3b, "aARABIC MATHEMATICAL INITIAL GHAIN"),
    (0x1ee42, "aARABIC MATHEMATICAL TAILED JEEM"),
    (0x1ee47, "aARABIC MATHEMATICAL TAILED HAH"),
    (0x1ee49, "aARABIC MATHEMATICAL TAILED YEH"),
    (0x1ee4b, "aARABIC MATHEMATICAL TAILED LAM"),
    (0x1ee4d, "aARABIC MATHEMATICAL TAILED NOONβSEENβAIN"),
    (0x1ee51, "aARABIC MATHEMATICAL TAILED SADβQAF"),
    (0x1ee54, "aARABIC MATHEMATICAL TAILED SHEEN"),
    (0x1ee57, "aARABIC MATHEMATICAL TAILED KHAH"),
    (0x1ee59, "aARABIC MATHEMATICAL TAILED DAD"),
    (0x1ee5b, "aARABIC MATHEMATICAL TAILED GHAIN"),
    (0x1ee5d, "aARABIC MATHEMATICAL TAILED DOTLESS NOON"),
    (0x1ee5f, "aARABIC MATHEMATICAL TAILED DOTLESS QAF"),
    (0x1ee61, "aARABIC MATHEMATICAL STRETCHED BEHεJEEM"),
    (0x1ee64, "aARABIC MATHEMATICAL STRETCHED HEH"),
    (0x1ee67, "aARABIC MATHEMATICAL STRETCHED HAHεTAHεYEHεKAF"),
    (0x1ee6c, "aARABIC MATHEMATICAL STRETCHED MEEMεNOONεSEENεAINεFEHεSADεQAF"),
    (0x1ee74, "aARABIC MATHEMATICAL STRETCHED SHEENεTEHζHEHεKHAH"),
    (0x1ee79, "aARABIC MATHEMATICAL STRETCHED DADεZAHεGHAINεDOTLESS BEH"),
    (0x1ee7e, "aARABIC MATHEMATICAL STRETCHED DOTLESS FEH"),
    (0x1ee80, "aARABIC MATHEMATICAL LOOPED ALEFβBEHβJEEMβDALβHEHβWAWβZAINβHAHβTAHβYEH"),
    (0x1ee8b, "aARABIC MATHEMATICAL LOOPED LAMβMEEMβNOONβSEENβAINβFEHβSADβQAFβREHβSHEENβTEHγHEHβKHA"
      ++ "HβTHALβDADβZAHβGHAIN"),
    (0x1eea1, "aARABIC MATHEMATICAL DOUBLE-STRUCK BEHιJEEMιDAL"),
    (0x1eea5, "aARABIC MATHEMATICAL DOUBLE-STRUCK WAWιZAINιHAHιTAHιYEH"),
    (0x1eeab, "aARABIC MATHEMATICAL DOUBLE-STRUCK LAMιMEEMιNOONιSEENιAINιFEHιSADιQAFιREHιSHEENιTEHκ"
      ++ "HEHιKHAHιTHALιDADιZAHιGHAIN"),
    (0x1eef0, "aARABIC MATHEMATICAL OPERATOR MEEM WITH HAH WITH TATWEELδHAH WITH DAL"),
    (0x1f000, "aMAHJONG TILE EAST WINDnSOUTH WINDnWEST WINDnNORTH WINDnRED DRAGONnGREEN DRAGONnWHIT"
      ++ "E DRAGONnONE OF CHARACTERSnTWO OF CHARACTERSoHREE OF CHARACTERSnFOUR OF CHARACTERSoI"
      ++ "VE OF CHARACTERSnSIX OF CHARACTERSoEVEN OF CHARACTERSnEIGHT OF CHARACTERSnNINE OF CH"
      ++ "ARACTERSnONE OF BAMBOOSnTWO OF BAMBOOSoHREE OF BAMBOOSnFOUR OF BAMBOOSoIVE OF BAMBOO"
      ++ "SnSIX OF BAMBOOSoEVEN OF BAMBOOSnEIGHT OF BAMBOOSnNINE OF BAMBOOSnONE OF CIRCLESnTWO"
      ++ " OF CIRCLESoHREE OF CIRCLESnFOUR OF CIRCLESoIVE OF CIRCLESnSIX OF CIRCLESoEVEN OF CI"
      ++ "RCLESnEIGHT OF CIRCLESnNINE OF CIRCLESnPLUMnORCHIDnBAMBOOnCHRYSANTHEMUMnSPRINGoUMMER"
      ++ "nAUTUMNnWINTERnJOKERnBACK"),
    (0x1f030, "aDOMINO TILE HORIZONTAL BACKw-00-00β1β2β3β4β5β6y1-00β1β2β3β4β5β6y2-00β1β2β3β4β5β6y3-"
      ++ "00β1β2β3β4β5β6y4-00β1β2β3β4β5β6y5-00β1β2β3β4β5β6y6-00β1β2β3β4β5β6mVERTICAL BACKu-00-"
      ++ "00z1z2z3z4z5z6w1-00z1z2z3z4z5"),
    (0x1f070, "aDOMINO TILE VERTICAL-01-06w2-00z1z2z3z4z5z6w3-00z1z2z3z4z5z6w4-00z1z2z3z4z5z6w5-00z"
      ++ "1z2z3z4z5z6w6-00z1z2z3z4z5z6"),
    (0x1f0a0, "aPLAYING CARD BACKnACE OF SPADESnTWO OF SPADESoHREE OF SPADESnFOUR OF SPADESoIVE OF "
      ++ "SPADESnSIX OF SPADESoEVEN OF SPADESnEIGHT OF SPADESnNINE OF SPADESnTEN OF SPADESnJAC"
      ++ "K OF SPADESnKNIGHT OF SPADESnQUEEN OF SPADESnKING OF SPADES"),
    (0x1f0b1, "aPLAYING CARD ACE OF HEARTSnTWO OF HEARTSoHREE OF HEARTSnFOUR OF HEARTSoIVE OF HEART"
      ++ "SnSIX OF HEARTSoEVEN OF HEARTSnEIGHT OF HEARTSnNINE OF HEARTSnTEN OF HEARTSnJACK OF "
      ++ "HEARTSnKNIGHT OF HEARTSnQUEEN OF HEARTSnKING OF HEARTSnRED JOKER"),
    (0x1f0c1, "aPLAYING CARD ACE OF DIAMONDSnTWO OF DIAMONDSoHREE OF DIAMONDSnFOUR OF DIAMONDSoIVE "
      ++ "OF DIAMONDSnSIX OF DIAMONDSoEVEN OF DIAMONDSnEIGHT OF DIAMONDSnNINE OF DIAMONDSnTEN "
      ++ "OF DIAMONDSnJACK OF DIAMONDSnKNIGHT OF DIAMONDSnQUEEN OF DIAMONDSnKING OF DIAMONDSnB"
      ++ "LACK JOKER"),
    (0x1f0d1, "aPLAYING CARD ACE OF CLUBSnTWO OF CLUBSoHREE OF CLUBSnFOUR OF CLUBSoIVE OF CLUBSnSIX"
      ++ " OF CLUBSoEVEN OF CLUBSnEIGHT OF CLUBSnNINE OF CLUBSnTEN OF CLUBSnJACK OF CLUBSnKNIG"
      ++ "HT OF CLUBSnQUEEN OF CLUBSnKING OF CLUBSnWHITE JOKERnFOOLnTRUMP-1t2t3t4t5t6t7t8t9t10"
      ++ "u1u2u3u4u5u6u7u8u9t20u1"),
    (0x1f100, "aDIGIT ZERO FULL STOPlCOMMAgONE COMMAgTWO COMMAhHREE COMMAgFOUR COMMAhIVE COMMAgSIX "
      ++ "COMMAhEVEN COMMAgEIGHT COMMAgNINE COMMAcNGBAT CIRCLED SANS-SERIF DIGIT ZEROiNEGATIVE"
      ++ " CIRCLED SANS-SERIF DIGIT ZEROaCIRCLED ZERO WITH SLASHiANTICLOCKWISE ARROWiDOLLAR SI"
      ++ "GN WITH OVERLAID BACKSLASHaPARENTHESIZED LATIN CAPITAL LETTER AκBκCκDκEκFκGκHκIκJκKκ"
      ++ "LκMκNκOκPκQκRκSκTκUκVκWκXκYκZaTORTOISE SHELL BRACKETED LATIN CAPITAL LETTER SaCIRCLE"
      ++ "D ITALIC LATIN CAPITAL LETTER CλRiCDiWZbOPYLEFT SYMBOLaSQUARED LATIN CAPITAL LETTER "
      ++ "AδBδCδDδEδFδGδHδIδJδKδLδMδNδOδP"),
    (0x1f140, "aSQUARED LATIN CAPITAL LETTER QδRδSδTδUδVδWδXδYδZiHViMViSDjSiPPViWCaNEGATIVE CIRCLED"
      ++ " LATIN CAPITAL LETTER AνBνCνDνEνFνGνHνIνJνKνLνMνNνOνPνQνRνSνTνUνVνWνXνYνZaRAISED MC "
      ++ "SIGNiD SIGNiR SIGNaCIRCLED CCj WITH OVERLAID BACKSLASHiHUMAN FIGUREaNEGATIVE SQUARED"
      ++ " LATIN CAPITAL LETTER AνBνCνDνEνFνGνHνIνJνKνLνMνNνOνP"),
    (0x1f180, "aNEGATIVE SQUARED LATIN CAPITAL LETTER QνRνSνTνUνVνWνXνYνZaCROSSED NEGATIVE SQUARED "
      ++ "LATIN CAPITAL LETTER PaNEGATIVE SQUARED ICrPArSArABrWCaSQUARE DJgD CLjOOLiFREEiIDiNE"
      ++ "WjGiOKiSOSiUP WITH EXCLAMATION MARKiVSiTHREE DiSECOND SCREENiTWO KiFOUR KiEIGHT KiFI"
      ++ "VE POINT ONEiSEVEN POINT ONEiTWENTY-TWO POINT TWOiSIXTY PiONE HUNDRED TWENTY PiLATIN"
      ++ " SMALL LETTER DiHCjDRjI-RESiLOSSLESSiSHViUHDiVODaMASK WORK SYMBOL"),
    (0x1f1e6, "aREGIONAL INDICATOR SYMBOL LETTER AθBθCθDθEθFθGθHθIθJθKθLθMθNθOθPθQθRθSθTθUθVθWθXθYθ"
      ++ "ZaSQUARE HIRAGANA HOKAgD KATAKANA KOKOrSA"),
    (0x1f210, "aSQUARED CJK UNIFIED IDEOGRAPH-624Bε5B57ζ3CCiKATAKANA DEiCJK UNIFIED IDEOGRAPH-4E8Cε"
      ++ "591Aε89E3ε5929ε4EA4ε6620ε7121ε6599ε524DζF8Cζ18Dε65B0ε521Dε7D42ζ51Fε8CA9ε58F0ζ439ε6F1"
      ++ "4ζ295ζ355ε4E00θ9ε904Aε5DE6ε4E2Dε53F3ε6307ε8D70ε6253ε7981ζA7Aε5408ε6E80ζ709θ8ε7533ε52"
      ++ "72ζ5B6ε914D"),
    (0x1f240, "aTORTOISE SHELL BRACKETED CJK UNIFIED IDEOGRAPH-672Cχ4E09ω8Cχ5B89χ70B9χ6253χ76D7χ52D"
      ++ "Dχ6557"),
    (0x1f250, "aCIRCLED IDEOGRAPH ADVANTAGEtCCEPT"),
    (0x1f260, "aROUNDED SYMBOL FOR FUtLUtSHOUtXItSHUANGXItCAI"),
    (0x1f300, "aCYCLONEaFOGGYaCLOSED UMBRELLAaNIGHT WITH STARSaSUNRISE OVER MOUNTAINShaCITYSCAPE AT"
      ++ " DUSKaSUNSET OVER BUILDINGSaRAINBOWaBRIDGE AT NIGHTaWATER WAVEaVOLCANOaMILKY WAYaEAR"
      ++ "TH GLOBE EUROPE-AFRICAmAMERICASnSIA-AUSTRALIAaGLOBE WITH MERIDIANSaNEW MOON SYMBOLaW"
      ++ "AXING CRESCENT MOON SYMBOLaFIRST QUARTER MOON SYMBOLaWAXING GIBBOUS MOON SYMBOLaFULL"
      ++ " MOON SYMBOLaWANING GIBBOUS MOON SYMBOLaLAST QUARTER MOON SYMBOLaWANING CRESCENT MOO"
      ++ "N SYMBOLaCRESCENT MOONaNEW MOON WITH FACEaFIRST QUARTER MOON WITH FACEaLAST QUARTER "
      ++ "MOON WITH FACEaFULL MOON WITH FACEaSUN WITH FACEaGLOWING STARaSHOOTING STARaTHERMOME"
      ++ "TERaBLACK DROPLETaWHITE SUNj WITH SMALL CLOUDkBEHIND CLOUDw WITH RAINaCLOUD WITH RAI"
      ++ "NlSNOWlLIGHTNINGlTORNADOaFOGaWIND BLOWING FACEaHOT DOGaTACOaBURRITOaCHESTNUTaSEEDLIN"
      ++ "GaEVERGREEN TREEaDECIDUOUS TREEaPALM TREEaCACTUSaHOT PEPPERaTULIPaCHERRY BLOSSOMaROS"
      ++ "EaHIBISCUSaSUNFLOWERaBLOSSOMaEAR OF MAIZEhRICEaHERB"),
    (0x1f340, "aFOUR LEAF CLOVERaMAPLE LEAFaFALLEN LEAFaLEAF FLUTTERING IN WINDaMUSHROOMaTOMATOaAUB"
      ++ "ERGINEaGRAPESaMELONaWATERMELONaTANGERINEaLEMONaBANANAaPINEAPPLEaRED APPLEaGREEN APPL"
      ++ "EaPEARdCHaCHERRIESaSTRAWBERRYaHAMBURGERaSLICE OF PIZZAaMEAT ON BONEaPOULTRY LEGaRICE"
      ++ " CRACKERfBALLaCOOKED RICEbURRY AND RICEaSTEAMING BOWLbPAGHETTIaBREADaFRENCH FRIESaRO"
      ++ "ASTED SWEET POTATOaDANGOaODENaSUSHIaFRIED SHRIMPbISH CAKE WITH SWIRL DESIGNaSOFT ICE"
      ++ " CREAMbHAVED ICEaICE CREAMaDOUGHNUTaCOOKIEbHOCOLATE BARbANDYaLOLLIPOPaCUSTARDaHONEY "
      ++ "POTaSHORTCAKEaBENTO BOXaPOT OF FOODaCOOKINGaFORK AND KNIFEaTEACUP WITHOUT HANDLEaSAK"
      ++ "E BOTTLE AND CUPaWINE GLASSaCOCKTAIL GLASSaTROPICAL DRINKaBEER MUGaCLINKING BEER MUG"
      ++ "SaBABY BOTTLEaFORK AND KNIFE WITH PLATEaBOTTLE WITH POPPING CORKaPOPCORN"),
    (0x1f380, "aRIBBONaWRAPPED PRESENTaBIRTHDAY CAKEaJACK-O-LANTERNaCHRISTMAS TREEaFATHER CHRISTMAS"
      ++ "bIREWORKSi SPARKLERaBALLOONaPARTY POPPERaCONFETTI BALLaTANABATA TREEaCROSSED FLAGSaP"
      ++ "INE DECORATIONaJAPANESE DOLLSaCARP STREAMERaWIND CHIMEaMOON VIEWING CEREMONYaSCHOOL "
      ++ "SATCHELaGRADUATION CAPaHEART WITH TIP ON THE LEFTaBOUQUET OF FLOWERSaMILITARY MEDALa"
      ++ "REMINDER RIBBONaMUSICAL KEYBOARD WITH JACKSaSTUDIO MICROPHONEaLEVEL SLIDERaCONTROL K"
      ++ "NOBSaBEAMED ASCENDING MUSICAL NOTEShDESCENDING MUSICAL NOTESaFILM FRAMESaADMISSION T"
      ++ "ICKETSaCAROUSEL HORSEaFERRIS WHEELaROLLER COASTERaFISHING POLE AND FISHaMICROPHONEbO"
      ++ "VIE CAMERAaCINEMAaHEADPHONEaARTIST PALETTEaTOP HATaCIRCUS TENTaTICKETaCLAPPER BOARDa"
      ++ "PERFORMING ARTSaVIDEO GAMEaDIRECT HITaSLOT MACHINEaBILLIARDSaGAME DIEaBOWLINGaFLOWER"
      ++ " PLAYING CARDSaMUSICAL NOTEcLTIPLE MUSICAL NOTESaSAXOPHONEaGUITARaMUSICAL KEYBOARDaT"
      ++ "RUMPETaVIOLINaMUSICAL SCOREaRUNNING SHIRT WITH SASHaTENNIS RACQUET AND BALLaSKI AND "
      ++ "SKI BOOT"),
    (0x1f3c0, "aBASKETBALL AND HOOPaCHEQUERED FLAGaSNOWBOARDERaRUNNERaSURFERbPORTS MEDALaTROPHYaHOR"
      ++ "SE RACINGaAMERICAN FOOTBALLaRUGBY FOOTBALLaSWIMMERaWEIGHT LIFTERaGOLFERaRACING MOTOR"
      ++ "CYCLEhCARaCRICKET BAT AND BALLaVOLLEYBALLaFIELD HOCKEY STICK AND BALLaICE HOCKEY STI"
      ++ "CK AND PUCKaTABLE TENNIS PADDLE AND BALLaSNOW CAPPED MOUNTAINaCAMPINGaBEACH WITH UMB"
      ++ "RELLAbUILDING CONSTRUCTIONaHOUSE BUILDINGSaCITYSCAPEaDERELICT HOUSE BUILDINGaCLASSIC"
      ++ "AL BUILDINGaDESERTg ISLANDaNATIONAL PARKaSTADIUMaHOUSE BUILDINGgWITH GARDENaOFFICE B"
      ++ "UILDINGaJAPANESE POST OFFICEaEUROPEAN POST OFFICEaHOSPITALaBANKaAUTOMATED TELLER MAC"
      ++ "HINEaHOTELaLOVE HOTELaCONVENIENCE STOREaSCHOOLaDEPARTMENT STOREaFACTORYaIZAKAYA LANT"
      ++ "ERNaJAPANESE CASTLEaEUROPEAN CASTLEaWHITE PENNANTaBLACK PENNANTaWAVING WHITE FLAGhBL"
      ++ "ACK FLAGaROSETTEaBLACK ROSETTEaLABELaBADMINTON RACQUET AND SHUTTLECOCKbOW AND ARROWa"
      ++ "AMPHORAaEMOJI MODIFIER FITZPATRICK TYPE-1-2η3η4η5η6"),
    (0x1f400, "aRATaMOUSEaOXaWATER BUFFALOaCOWaTIGERaLEOPARDaRABBITaCATaDRAGONaCROCODILEaWHALEaSNAI"
      ++ "LdKEaHORSEaRAMaGOATaSHEEPaMONKEYaROOSTERaCHICKENaDOGaPIGaBOARaELEPHANTaOCTOPUSaSPIRA"
      ++ "L SHELLaBUGaANTaHONEYBEEaLADY BEETLEaFISHaTROPICAL FISHaBLOWFISHaTURTLEaHATCHING CHI"
      ++ "CKaBABY CHICKaFRONT-FACING BABY CHICKaBIRDaPENGUINaKOALAaPOODLEaDROMEDARY CAMELaBACT"
      ++ "RIAN CAMELaDOLPHINaMOUSE FACEaCOW FACEaTIGER FACEaRABBIT FACEaCAT FACEaDRAGON FACEaS"
      ++ "POUTING WHALEaHORSE FACEaMONKEY FACEaDOG FACEaPIG FACEaFROG FACEaHAMSTER FACEaWOLF F"
      ++ "ACEaBEAR FACEaPANDA FACEbIG NOSEbAW PRINTSaCHIPMUNK"),
    (0x1f440, "aEYESdbARaNOSEaMOUTHaTONGUEaWHITE UP POINTING BACKHAND INDEXgDOWN POINTING BACKHAND "
      ++ "INDEXgLEFT POINTING BACKHAND INDEXgRIGHT POINTING BACKHAND INDEXaFISTED HAND SIGNaWA"
      ++ "VING HAND SIGNaOK HAND SIGNaTHUMBS UP SIGNhDOWN SIGNaCLAPPING HANDS SIGNaOPEN HANDS "
      ++ "SIGNaCROWNaWOMANS HATaEYEGLASSESaNECKTIEaT-SHIRTaJEANSaDRESSaKIMONOaBIKINIaWOMANS CL"
      ++ "OTHESaPURSEaHANDBAGaPOUCHaMANS SHOEaATHLETIC SHOEaHIGH-HEELED SHOEaWOMANS SANDALhBOO"
      ++ "TSaFOOTPRINTSaBUST IN SILHOUETTEeS IN SILHOUETTEbOYaGIRLaMANaWOMANaFAMILYaMAN AND WO"
      ++ "MAN HOLDING HANDSaTWO MEN HOLDING HANDSeWOMEN HOLDING HANDSaPOLICE OFFICERaWOMAN WIT"
      ++ "H BUNNY EARSaBRIDE WITH VEILaPERSON WITH BLOND HAIRaMAN WITH GUA PI MAOjTURBANaOLDER"
      ++ " MANgWOMANaBABYaCONSTRUCTION WORKERaPRINCESSaJAPANESE OGREjGOBLINaGHOSTaBABY ANGELaE"
      ++ "XTRATERRESTRIAL ALIENaALIEN MONSTERaIMP"),
    (0x1f480, "aSKULLaINFORMATION DESK PERSONaGUARDSMANaDANCERaLIPSTICKaNAIL POLISHaFACE MASSAGEaHA"
      ++ "IRCUTaBARBER POLEaSYRINGEaPILLaKISS MARKaLOVE LETTERaRINGaGEM STONEaKISSaBOUQUETaCOU"
      ++ "PLE WITH HEARTaWEDDINGaBEATING HEARTbROKEN HEARTaTWO HEARTSaSPARKLING HEARTaGROWING "
      ++ "HEARTaHEART WITH ARROWaBLUE HEARTaGREEN HEARTaYELLOW HEARTaPURPLE HEARTaHEART WITH R"
      ++ "IBBONaREVOLVING HEARTSaHEART DECORATIONaDIAMOND SHAPE WITH A DOT INSIDEaELECTRIC LIG"
      ++ "HT BULBaANGER SYMBOLaBOMBaSLEEPING SYMBOLaCOLLISION SYMBOLaSPLASHING SWEAT SYMBOLaDR"
      ++ "OPLETbASH SYMBOLaPILE OF POOaFLEXED BICEPSaDIZZY SYMBOLaSPEECH BALLOONaTHOUGHT BALLO"
      ++ "ONaWHITE FLOWERaHUNDRED POINTS SYMBOLaMONEY BAGaCURRENCY EXCHANGEaHEAVY DOLLAR SIGNa"
      ++ "CREDIT CARDaBANKNOTE WITH YEN SIGNoDOLLAR SIGNoEURO SIGNoPOUND SIGNaMONEY WITH WINGS"
      ++ "aCHART WITH UPWARDS TREND AND YEN SIGNaSEATaPERSONAL COMPUTERaBRIEFCASEaMINIDISCaFLO"
      ++ "PPY DISKaOPTICAL DISC"),
    (0x1f4c0, "aDVDaFILE FOLDERaOPEN FILE FOLDERaPAGE WITH CURLfFACING UPaCALENDARaTEAR-OFF CALENDA"
      ++ "RaCARD INDEXbHART WITH UPWARDS TRENDlDOWNWARDS TRENDaBAR CHARTaCLIPBOARDaPUSHPINaROU"
      ++ "ND PUSHPINaPAPERCLIPaSTRAIGHT RULERaTRIANGULAR RULERaBOOKMARK TABSaLEDGERaNOTEBOOKi "
      ++ "WITH DECORATIVE COVERaCLOSED BOOKaOPEN BOOKaGREEN BOOKaBLUE BOOKaORANGE BOOKaBOOKSaN"
      ++ "AME BADGEaSCROLLaMEMOaTELEPHONE RECEIVERaPAGERaFAX MACHINEaSATELLITE ANTENNAaPUBLIC "
      ++ "ADDRESS LOUDSPEAKERaCHEERING MEGAPHONEaOUTBOX TRAYaINBOX TRAYaPACKAGEaE-MAIL SYMBOLa"
      ++ "INCOMING ENVELOPEaENVELOPE WITH DOWNWARDS ARROW ABOVEaCLOSED MAILBOX WITH LOWERED FL"
      ++ "AGuRAISED FLAGaOPEN MAILBOX WITH RAISED FLAGsLOWERED FLAGaPOSTBOXeAL HORNaNEWSPAPERa"
      ++ "MOBILE PHONEm WITH RIGHTWARDS ARROW AT LEFTaVIBRATION MODEaMOBILE PHONE OFFaNO MOBIL"
      ++ "E PHONESaANTENNA WITH BARSaCAMERAg WITH FLASHaVIDEO CAMERAaTELEVISIONaRADIOaVIDEOCAS"
      ++ "SETTEaFILM PROJECTORaPORTABLE STEREObRAYER BEADS"),
    (0x1f500, "aTWISTED RIGHTWARDS ARROWSaCLOCKWISE RIGHTWARDS AND LEFTWARDS OPEN CIRCLE ARROWSωROW"
      ++ "S WITH CIRCLED ONE OVERLAYkDOWNWARDS AND UPWARDS OPEN CIRCLE ARROWSaANTICLOCKWISE DO"
      ++ "WNWARDS AND UPWARDS OPEN CIRCLE ARROWSaLOW BRIGHTNESS SYMBOLaHIGH BRIGHTNESS SYMBOLa"
      ++ "SPEAKER WITH CANCELLATION STROKEhh WITH ONE SOUND WAVEnTHREE SOUND WAVESaBATTERYaELE"
      ++ "CTRIC PLUGaLEFT-POINTING MAGNIFYING GLASSaRIGHT-POINTING MAGNIFYING GLASSaLOCK WITH "
      ++ "INK PENaCLOSED LOCK WITH KEYaKEYaLOCKaOPEN LOCKaBELLe WITH CANCELLATION STROKEbOOKMA"
      ++ "RKaLINK SYMBOLaRADIO BUTTONaBACK WITH LEFTWARDS ARROW ABOVEaEND WITH LEFTWARDS ARROW"
      ++ " ABOVEaON WITH EXCLAMATION MARK WITH LEFT RIGHT ARROW ABOVEaSOON WITH RIGHTWARDS ARR"
      ++ "OW ABOVEaTOP WITH UPWARDS ARROW ABOVEaNO ONE UNDER EIGHTEEN SYMBOLaKEYCAP TENaINPUT "
      ++ "SYMBOL FOR LATIN CAPITAL LETTERSxSMALL LETTERSrNUMBERSrSYMBOLSrLATIN LETTERSaFIREaEL"
      ++ "ECTRIC TORCHaWRENCHaHAMMERaNUT AND BOLTaHOCHOaPISTOLaMICROSCOPEaTELESCOPEaCRYSTAL BA"
      ++ "LLaSIX POINTED STAR WITH MIDDLE DOTaJAPANESE SYMBOL FOR BEGINNERaTRIDENT EMBLEMaBLAC"
      ++ "K SQUARE BUTTONaWHITE SQUARE BUTTONaLARGE RED CIRCLEgBLUE CIRCLEgORANGE DIAMONDgBLUE"
      ++ " DIAMONDaSMALL ORANGE DIAMONDgBLUE DIAMONDaUP-POINTING RED TRIANGLEaDOWN-POINTING RE"
      ++ "D TRIANGLEaUP-POINTING SMALL RED TRIANGLEaDOWN-POINTING SMALL RED TRIANGLEaLOWER RIG"
      ++ "HT SHADOWED WHITE CIRCLEaUPPER RIGHT SHADOWED WHITE CIRCLE"),
    (0x1f540, "aCIRCLED CROSS POMMEEbROSS POMMEE WITH HALF-CIRCLE BELOWmaNOTCHED LEFT SEMICIRCLE WI"
      ++ "TH THREE DOTSiRIGHT SEMICIRCLE WITH THREE DOTSaSYMBOL FOR MARKS CHAPTERaWHITE LATIN "
      ++ "CROSSaHEAVY LATIN CROSSaCELTIC CROSSaOM SYMBOLaDOVE OF PEACEaKAABAaMOSQUEaSYNAGOGUEa"
      ++ "MENORAH WITH NINE BRANCHESaBOWL OF HYGIEIAaCLOCK FACE ONE OCLOCKlTWO OCLOCKmHREE OCL"
      ++ "OCKlFOUR OCLOCKmIVE OCLOCKlSIX OCLOCKmEVEN OCLOCKlEIGHT OCLOCKlNINE OCLOCKlTEN OCLOC"
      ++ "KlELEVEN OCLOCKlTWELVE OCLOCKlONE-THIRTYlTWO-THIRTYmHREE-THIRTYlFOUR-THIRTYmIVE-THIR"
      ++ "TYlSIX-THIRTYmEVEN-THIRTYlEIGHT-THIRTYlNINE-THIRTYlTEN-THIRTYlELEVEN-THIRTYlTWELVE-T"
      ++ "HIRTYaRIGHT SPEAKERn WITH ONE SOUND WAVEtTHREE SOUND WAVESaBULLHORNi WITH SOUND WAVE"
      ++ "SaRINGING BELLaBOOKaCANDLEaMANTELPIECE CLOCKaBLACK SKULL AND CROSSBONESaNO PIRACYaHO"
      ++ "LEaMAN IN BUSINESS SUIT LEVITATINGaSLEUTH OR SPYaDARK SUNGLASSESaSPIDERg WEBaJOYSTIC"
      ++ "KaMAN DANCINGaLEFT HAND TELEPHONE RECEIVERaTELEPHONE RECEIVER WITH PAGEaRIGHT HAND T"
      ++ "ELEPHONE RECEIVERaWHITE TOUCHTONE TELEPHONEaBLACK TOUCHTONE TELEPHONE"),
    (0x1f580, "aTELEPHONE ON TOP OF MODEMaCLAMSHELL MOBILE PHONEaBACK OF ENVELOPEaSTAMPED ENVELOPEa"
      ++ "ENVELOPE WITH LIGHTNINGaFLYING ENVELOPEaPEN OVER STAMPED ENVELOPEaLINKED PAPERCLIPSa"
      ++ "BLACK PUSHPINaLOWER LEFT PENCILlBALLPOINT PENlFOUNTAIN PENlPAINTBRUSHlCRAYONbEFT WRI"
      ++ "TING HANDaTURNED OK HAND SIGNaRAISED HAND WITH FINGERS SPLAYEDbEVERSED RAISED HAND W"
      ++ "ITH FINGERS SPLAYEDjTHUMBS UP SIGNqDOWN SIGNjVICTORY HANDjHAND WITH MIDDLE FINGER EX"
      ++ "TENDEDbAISED HAND WITH PART BETWEEN MIDDLE AND RING FINGERSaWHITE DOWN POINTING LEFT"
      ++ " HAND INDEXaSIDEWAYS WHITE LEFT POINTING INDEXpRIGHT POINTING INDEXjBLACK LEFT POINT"
      ++ "ING INDEXpRIGHT POINTING INDEXaBLACK LEFT POINTING BACKHAND INDEXgRIGHT POINTING BAC"
      ++ "KHAND INDEXaSIDEWAYS WHITE UP POINTING INDEXpDOWN POINTING INDEXjBLACK UP POINTING I"
      ++ "NDEXpDOWN POINTING INDEXaBLACK UP POINTING BACKHAND INDEXgDOWN POINTING BACKHAND IND"
      ++ "EXgHEARTaDESKTOP COMPUTERaKEYBOARD AND MOUSEaTHREE NETWORKED COMPUTERSaPRINTERbOCKET"
      ++ " CALCULATORaBLACK HARD SHELL FLOPPY DISKaWHITE HARD SHELL FLOPPY DISKaSOFT SHELL FLO"
      ++ "PPY DISKaTAPE CARTRIDGEaWIRED KEYBOARDaONE BUTTON MOUSEaTWO BUTTON MOUSEbHREE BUTTON"
      ++ " MOUSEbRACKBALLaOLD PERSONAL COMPUTERaHARD DISKaSCREENaPRINTER ICONaFAX ICONaOPTICAL"
      ++ " DISC ICONaDOCUMENT WITH TEXTs AND PICTUREoPICTUREaFRAME WITH PICTURElTILESlAN XaBLA"
      ++ "CK FOLDER"),
    (0x1f5c0, "aFOLDERaOPEN FOLDERaCARD INDEX DIVIDERSfFILE BOXaFILE CABINETaEMPTY NOTEk PAGEnDaNOT"
      ++ "Ee PAGEhDaEMPTY DOCUMENTgPAGEkSaDOCUMENTaPAGEeSaWASTEBASKETaSPIRAL NOTE PADhCALENDAR"
      ++ " PADaDESKTOP WINDOWaMINIMIZEbAXIMIZEaOVERLAPaCLOCKWISE RIGHT AND LEFT SEMICIRCLE ARR"
      ++ "OWSbANCELLATION XaINCREASE FONT SIZE SYMBOLaDECREASE FONT SIZE SYMBOLaCOMPRESSIONaOL"
      ++ "D KEYaROLLED-UP NEWSPAPERaPAGE WITH CIRCLED TEXTaSTOCK CHARTaDAGGER KNIFEaLIPSaSPEAK"
      ++ "ING HEAD IN SILHOUETTEaTHREE RAYS ABOVElBELOWlLEFTlRIGHTaLEFT SPEECH BUBBLEaRIGHT SP"
      ++ "EECH BUBBLEaTWO SPEECH BUBBLESbHREE SPEECH BUBBLESaLEFT THOUGHT BUBBLEaRIGHT THOUGHT"
      ++ " BUBBLEaLEFT ANGER BUBBLEaRIGHT ANGER BUBBLEaMOOD BUBBLEaLIGHTNING MOOD BUBBLEoaBALL"
      ++ "OT BOX WITH BALLOThSCRIPT XhBOX WITH SCRIPT XjLD SCRIPT XjX WITH BOLD SCRIPT XaLIGHT"
      ++ " CHECK MARKaBALLOT BOX WITH BOLD CHECKaWORLD MAPaMOUNT FUJIaTOKYO TOWERaSTATUE OF LI"
      ++ "BERTYbILHOUETTE OF JAPANaMOYAI"),
    (0x1f600, "aGRINNING FACEn WITH SMILING EYESaFACE WITH TEARS OF JOYaSMILING FACE WITH OPEN MOUT"
      ++ "Hγ AND SMILING EYESθCOLD SWEATθTIGHTLY-CLOSED EYESsHALOtORNSaWINKING FACEaSMILING FA"
      ++ "CE WITH SMILING EYESaFACE SAVOURING DELICIOUS FOODaRELIEVED FACEaSMILING FACE WITH H"
      ++ "EART-SHAPED EYESsSUNGLASSESdRKING FACEaNEUTRAL FACEaEXPRESSIONLESS FACEaUNAMUSED FAC"
      ++ "EaFACE WITH COLD SWEATaPENSIVE FACEaCONFUSED FACEeOUNDED FACEaKISSING FACEaFACE THRO"
      ++ "WING A KISSaKISSING FACE WITH SMILING EYESsCLOSED EYESaFACE WITH STUCK-OUT TONGUEα A"
      ++ "ND WINKING EYEζTIGHTLY-CLOSED EYESaDISAPPOINTED FACEaWORRIED FACEaANGRY FACEaPOUTING"
      ++ " FACEaCRYING FACEaPERSEVERING FACEaFACE WITH LOOK OF TRIUMPHaDISAPPOINTED BUT RELIEV"
      ++ "ED FACEaFROWNING FACE WITH OPEN MOUTHaANGUISHED FACEaFEARFUL FACEaWEARY FACEaSLEEPY "
      ++ "FACEaTIRED FACEaGRIMACING FACEaLOUDLY CRYING FACEaFACE WITH OPEN MOUTHaHUSHED FACEaF"
      ++ "ACE WITH OPEN MOUTH AND COLD SWEATfSCREAMING IN FEARaASTONISHED FACEaFLUSHED FACEaSL"
      ++ "EEPING FACEaDIZZY FACEaFACE WITHOUT MOUTHj MEDICAL MASKaGRINNING CAT FACE WITH SMILI"
      ++ "NG EYESaCAT FACE WITH TEARS OF JOYaSMILING CAT FACE WITH OPEN MOUTHwHEART-SHAPED EYE"
      ++ "SaCAT FACE WITH WRY SMILEaKISSING CAT FACE WITH CLOSED EYESaPOUTING CAT FACEaCRYING "
      ++ "CAT FACE"),
    (0x1f640, "aWEARY CAT FACEaSLIGHTLY FROWNING FACEjSMILING FACEaUPSIDE-DOWN FACEaFACE WITH ROLLI"
      ++ "NG EYESkNO GOOD GESTUREkOK GESTUREaPERSON BOWING DEEPLYaSEE-NO-EVIL MONKEYaHEAR-NO-E"
      ++ "VIL MONKEYaSPEAK-NO-EVIL MONKEYaHAPPY PERSON RAISING ONE HANDaPERSON RAISING BOTH HA"
      ++ "NDS IN CELEBRATIONhFROWNINGhWITH POUTING FACEmFOLDED HANDSaNORTH WEST POINTING LEAFa"
      ++ "SOUTH WEST POINTING LEAFaNORTH EAST POINTING LEAFaSOUTH EAST POINTING LEAFaTURNED NO"
      ++ "RTH WEST POINTING LEAFhSOUTH WEST POINTING LEAFhNORTH EAST POINTING LEAFhSOUTH EAST "
      ++ "POINTING LEAFaNORTH WEST POINTING VINE LEAFaSOUTH WEST POINTING VINE LEAFaNORTH EAST"
      ++ " POINTING VINE LEAFaSOUTH EAST POINTING VINE LEAFaHEAVY NORTH WEST POINTING VINE LEA"
      ++ "FgSOUTH WEST POINTING VINE LEAFgNORTH EAST POINTING VINE LEAFgSOUTH EAST POINTING VI"
      ++ "NE LEAFaNORTH WEST POINTING BUDaSOUTH WEST POINTING BUDaNORTH EAST POINTING BUDaSOUT"
      ++ "H EAST POINTING BUDaHEAVY NORTH WEST POINTING BUDgSOUTH WEST POINTING BUDgNORTH EAST"
      ++ " POINTING BUDgSOUTH EAST POINTING BUDbOLLOW QUILT SQUARE ORNAMENTγ IN BLACK SQUAREaS"
      ++ "OLID QUILT SQUARE ORNAMENTβ IN BLACK SQUAREaLEFTWARDS ROCKETaUPWARDS ROCKETaRIGHTWAR"
      ++ "DS ROCKETaDOWNWARDS ROCKETaSCRIPT LIGATURE ET ORNAMENTaHEAVY SCRIPT LIGATURE ET ORNA"
      ++ "MENTaLIGATURE OPEN ET ORNAMENTaHEAVY LIGATURE OPEN ET ORNAMENTgAMPERSAND ORNAMENTaSW"
      ++ "ASH AMPERSAND ORNAMENTbANS-SERIF HEAVY DOUBLE TURNED COMMA QUOTATION MARK ORNAMENTyC"
      ++ "OMMA QUOTATION MARK ORNAMENTrLOW DOUBLE COMMA QUOTATION MARK ORNAMENTaHEAVY INTERROB"
      ++ "ANG ORNAMENTaSANS-SERIF INTERROBANG ORNAMENTaHEAVY SANS-SERIF INTERROBANG ORNAMENTaV"
      ++ "ERY HEAVY SOLIDUSlREVERSE SOLIDUSaCHECKER BOARDaREVERSE CHECKER BOARD"),
    (0x1f680, "aROCKETaHELICOPTERaSTEAM LOCOMOTIVEaRAILWAY CARaHIGH-SPEED TRAINq WITH BULLET NOSEaT"
      ++ "RAINaMETROaLIGHT RAILaSTATIONaTRAMe CARaBUSaONCOMING BUSaTROLLEYBUSaBUS STOPaMINIBUS"
      ++ "aAMBULANCEaFIRE ENGINEaPOLICE CARaONCOMING POLICE CARaTAXIaONCOMING TAXIaAUTOMOBILEa"
      ++ "ONCOMING AUTOMOBILEaRECREATIONAL VEHICLEaDELIVERY TRUCKaARTICULATED LORRYaTRACTORaMO"
      ++ "NORAILcUNTAIN RAILWAYaSUSPENSION RAILWAYaMOUNTAIN CABLEWAYaAERIAL TRAMWAYaSHIPaROWBO"
      ++ "ATaSPEEDBOATaHORIZONTAL TRAFFIC LIGHTaVERTICAL TRAFFIC LIGHTaCONSTRUCTION SIGNaPOLIC"
      ++ "E CARS REVOLVING LIGHTaTRIANGULAR FLAG ON POSTaDOORaNO ENTRY SIGNaSMOKING SYMBOLaNO "
      ++ "SMOKING SYMBOLaPUT LITTER IN ITS PLACE SYMBOLaDO NOT LITTER SYMBOLaPOTABLE WATER SYM"
      ++ "BOLaNON-POTABLE WATER SYMBOLaBICYCLEaNO BICYCLESaBICYCLISTaMOUNTAIN BICYCLISTaPEDEST"
      ++ "RIANaNO PEDESTRIANSaCHILDREN CROSSINGaMENS SYMBOLaWOMENS SYMBOLaRESTROOMaBABY SYMBOL"
      ++ "aTOILETaWATER CLOSETaSHOWER"),
    (0x1f6c0, "aBATHeTUBaPASSPORT CONTROLaCUSTOMSaBAGGAGE CLAIMaLEFT LUGGAGEaTRIANGLE WITH ROUNDED "
      ++ "CORNERSaPROHIBITED SIGNaCIRCLED INFORMATION SOURCEaBOYS SYMBOLaGIRLS SYMBOLaCOUCH AN"
      ++ "D LAMPaSLEEPING ACCOMMODATIONbHOPPING BAGSaBELLHOP BELLcDaPLACE OF WORSHIPaOCTAGONAL"
      ++ " SIGNaSHOPPING TROLLEYbTUPAaPAGODAaHINDU TEMPLEbUTaELEVATOR"),
    (0x1f6dd, "aPLAYGROUND SLIDEaWHEELaRING BUOYaHAMMER AND WRENCHaSHIELDaOIL DRUMaMOTORWAYaRAILWAY"
      ++ " TRACKaMOTOR BOATaUP-POINTING MILITARY AIRPLANEmAIRPLANEmSMALL AIRPLANEaSMALL AIRPLA"
      ++ "NEaNORTHEAST-POINTING AIRPLANEaAIRPLANE DEPARTUREjARRIVING"),
    (0x1f6f0, "aSATELLITEaONCOMING FIRE ENGINEaDIESEL LOCOMOTIVEaPASSENGER SHIPaSCOOTERaMOTOR SCOOT"
      ++ "ERaCANOEaSLEDaFLYING SAUCERaSKATEBOARDaAUTO RICKSHAWaPICKUP TRUCKaROLLER SKATE"),
    (0x1f700, "aALCHEMICAL SYMBOL FOR QUINTESSENCEwAIRwFIREwEARTHwWATERwAQUAFORTISα REGIAη-2βVITAEη"
      ++ "-2wVINEGARδ-2ε3wSULFURwPHILOSOPHERS SULFURwBLACK SULFURwMERCURY SUBLIMATEξ-2ο3wCINNA"
      ++ "BARwSALTwNITREwVITRIOLδ-2wROCK SALTζ-2wGOLDwSILVERwIRON OREε-2wCROCUS OF IRONwREGULU"
      ++ "S OF IRONwCOPPER OREwIRON-COPPER OREwSUBLIMATE OF COPPERwCROCUS OF COPPERν-2xOPPER A"
      ++ "NTIMONIATEwSALT OF COPPER ANTIMONIATExUBLIMATE OF SALT OF COPPERwVERDIGRISwTIN OREwL"
      ++ "EAD OREwANTIMONY OREwSUBLIMATE OF ANTIMONYxALT OF ANTIMONYxUBLIMATE OF SALT OF ANTIM"
      ++ "ONYwVINEGAR OF ANTIMONYwREGULUS OF ANTIMONYπ-2δδ-2ε3ε4wALKALIγ-2wMARCASITEwSAL-AMMON"
      ++ "IACwARSENICwREALGARδ-2wAURIPIGMENTwBISMUTH OREwTARTAR"),
    (0x1f740, "aALCHEMICAL SYMBOL FOR TARTAR-2wQUICK LIMEwBORAXβ-2γ3wALUMwOILwSPIRITwTINCTUREwGUMwW"
      ++ "AXwPOWDERwCALXwTUTTYwCAPUT MORTUUMwSCEPTER OF JOVEwCADUCEUSwTRIDENTwSTARRED TRIDENTw"
      ++ "LODESTONEwSOAPwURINEwHORSE DUNGwASHESwPOT ASHESwBRICKwPOWDERED BRICKwAMALGAMwSTRATUM"
      ++ " SUPER STRATUMσ-2xUBLIMATIONwPRECIPITATEwDISTILLzSOLVEε-2wPURIFYyTREFACTIONwCRUCIBLE"
      ++ "ε-2ζ3ζ4ζ5wALEMBICwBATH OF MARYεVAPOURSwRETORTwHOURwNIGHTwDAY-NIGHTwMONTHwHALF DRAMβO"
      ++ "UNCE"),
    (0x1f780, "aBLACK LEFT-POINTING ISOSCELES RIGHT TRIANGLEgUP-POINTING ISOSCELES RIGHT TRIANGLEgR"
      ++ "IGHT-POINTING ISOSCELES RIGHT TRIANGLEgDOWN-POINTING ISOSCELES RIGHT TRIANGLEgSLIGHT"
      ++ "LY SMALL CIRCLEaMEDIUM BOLD WHITE CIRCLEaBOLD WHITE CIRCLEaHEAVY WHITE CIRCLEaVERY H"
      ++ "EAVY WHITE CIRCLEaEXTREMELY HEAVY WHITE CIRCLEaWHITE CIRCLE CONTAINING BLACK SMALL C"
      ++ "IRCLEaROUND TARGETaBLACK TINY SQUAREgSLIGHTLY SMALL SQUAREaLIGHT WHITE SQUAREaMEDIUM"
      ++ " WHITE SQUAREaBOLD WHITE SQUAREaHEAVY WHITE SQUAREaVERY HEAVY WHITE SQUAREaEXTREMELY"
      ++ " HEAVY WHITE SQUAREaWHITE SQUARE CONTAINING BLACK VERY SMALL SQUAREεMEDIUM SQUAREaSQ"
      ++ "UARE TARGETaBLACK TINY DIAMONDgVERY SMALL DIAMONDgMEDIUM SMALL DIAMONDaWHITE DIAMOND"
      ++ " CONTAINING BLACK VERY SMALL DIAMONDζMEDIUM DIAMONDaDIAMOND TARGETaBLACK TINY LOZENG"
      ++ "EgVERY SMALL LOZENGEgMEDIUM SMALL LOZENGEaWHITE LOZENGE CONTAINING BLACK SMALL LOZEN"
      ++ "GEaTHIN GREEK CROSSaLIGHT GREEK CROSSaMEDIUM GREEK CROSSaBOLD GREEK CROSSaVERY BOLD "
      ++ "GREEK CROSSfHEAVY GREEK CROSSaEXTREMELY HEAVY GREEK CROSSaTHIN SALTIREaLIGHT SALTIRE"
      ++ "aMEDIUM SALTIREaBOLD SALTIREaHEAVY SALTIREaVERY HEAVY SALTIREaEXTREMELY HEAVY SALTIR"
      ++ "EaLIGHT FIVE SPOKED ASTERISKaMEDIUM FIVE SPOKED ASTERISKaBOLD FIVE SPOKED ASTERISKaH"
      ++ "EAVY FIVE SPOKED ASTERISKaVERY HEAVY FIVE SPOKED ASTERISKaEXTREMELY HEAVY FIVE SPOKE"
      ++ "D ASTERISKaLIGHT SIX SPOKED ASTERISKaMEDIUM SIX SPOKED ASTERISKaBOLD SIX SPOKED ASTE"
      ++ "RISKaHEAVY SIX SPOKED ASTERISKaVERY HEAVY SIX SPOKED ASTERISKaEXTREMELY HEAVY SIX SP"
      ++ "OKED ASTERISKaLIGHT EIGHT SPOKED ASTERISKaMEDIUM EIGHT SPOKED ASTERISKaBOLD EIGHT SP"
      ++ "OKED ASTERISKaHEAVY EIGHT SPOKED ASTERISKaVERY HEAVY EIGHT SPOKED ASTERISK"),
    (0x1f7c0, "aLIGHT THREE POINTED BLACK STARaMEDIUM THREE POINTED BLACK STARaTHREE POINTED BLACK "
      ++ "STARaMEDIUM THREE POINTED PINWHEEL STARaLIGHT FOUR POINTED BLACK STARaMEDIUM FOUR PO"
      ++ "INTED BLACK STARaFOUR POINTED BLACK STARaMEDIUM FOUR POINTED PINWHEEL STARaREVERSE L"
      ++ "IGHT FOUR POINTED PINWHEEL STARaLIGHT FIVE POINTED BLACK STARaHEAVY FIVE POINTED BLA"
      ++ "CK STARaMEDIUM SIX POINTED BLACK STARaHEAVY SIX POINTED BLACK STARaSIX POINTED PINWH"
      ++ "EEL STARaMEDIUM EIGHT POINTED BLACK STARaHEAVY EIGHT POINTED BLACK STARaVERY HEAVY E"
      ++ "IGHT POINTED BLACK STARaHEAVY EIGHT POINTED PINWHEEL STARaLIGHT TWELVE POINTED BLACK"
      ++ " STARaHEAVY TWELVE POINTED BLACK STARvPINWHEEL STARaCIRCLED TRIANGLEaNEGATIVE CIRCLE"
      ++ "D TRIANGLEaCIRCLED SQUAREaNEGATIVE CIRCLED SQUARE"),
    (0x1f7e0, "aLARGE ORANGE CIRCLEgYELLOW CIRCLEgGREEN CIRCLEgPURPLE CIRCLEgBROWN CIRCLEgRED SQUAR"
      ++ "EgBLUE SQUAREgORANGE SQUAREgYELLOW SQUAREgGREEN SQUAREgPURPLE SQUAREgBROWN SQUARE"),
    (0x1f7f0, "aHEAVY EQUALS SIGN"),
    (0x1f800, "aLEFTWARDS ARROW WITH SMALL TRIANGLE ARROWHEADaUPWARDS ARROW WITH SMALL TRIANGLE ARR"
      ++ "OWHEADaRIGHTWARDS ARROW WITH SMALL TRIANGLE ARROWHEADaDOWNWARDS ARROW WITH SMALL TRI"
      ++ "ANGLE ARROWHEADaLEFTWARDS ARROW WITH MEDIUM TRIANGLE ARROWHEADaUPWARDS ARROW WITH ME"
      ++ "DIUM TRIANGLE ARROWHEADaRIGHTWARDS ARROW WITH MEDIUM TRIANGLE ARROWHEADaDOWNWARDS AR"
      ++ "ROW WITH MEDIUM TRIANGLE ARROWHEADaLEFTWARDS ARROW WITH LARGE TRIANGLE ARROWHEADaUPW"
      ++ "ARDS ARROW WITH LARGE TRIANGLE ARROWHEADaRIGHTWARDS ARROW WITH LARGE TRIANGLE ARROWH"
      ++ "EADaDOWNWARDS ARROW WITH LARGE TRIANGLE ARROWHEAD"),
    (0x1f810, "aLEFTWARDS ARROW WITH SMALL EQUILATERAL ARROWHEADaUPWARDS ARROW WITH SMALL EQUILATER"
      ++ "AL ARROWHEADaRIGHTWARDS ARROW WITH SMALL EQUILATERAL ARROWHEADaDOWNWARDS ARROW WITH "
      ++ "SMALL EQUILATERAL ARROWHEADaLEFTWARDS ARROW WITH EQUILATERAL ARROWHEADaUPWARDS ARROW"
      ++ " WITH EQUILATERAL ARROWHEADaRIGHTWARDS ARROW WITH EQUILATERAL ARROWHEADaDOWNWARDS AR"
      ++ "ROW WITH EQUILATERAL ARROWHEADaHEAVY LEFTWARDS ARROW WITH EQUILATERAL ARROWHEADgUPWA"
      ++ "RDS ARROW WITH EQUILATERAL ARROWHEADgRIGHTWARDS ARROW WITH EQUILATERAL ARROWHEADgDOW"
      ++ "NWARDS ARROW WITH EQUILATERAL ARROWHEADgLEFTWARDS ARROW WITH LARGE EQUILATERAL ARROW"
      ++ "HEADgUPWARDS ARROW WITH LARGE EQUILATERAL ARROWHEADgRIGHTWARDS ARROW WITH LARGE EQUI"
      ++ "LATERAL ARROWHEADgDOWNWARDS ARROW WITH LARGE EQUILATERAL ARROWHEADaLEFTWARDS TRIANGL"
      ++ "E-HEADED ARROW WITH NARROW SHAFTaUPWARDS TRIANGLE-HEADED ARROW WITH NARROW SHAFTaRIG"
      ++ "HTWARDS TRIANGLE-HEADED ARROW WITH NARROW SHAFTaDOWNWARDS TRIANGLE-HEADED ARROW WITH"
      ++ " NARROW SHAFTaLEFTWARDS TRIANGLE-HEADED ARROW WITH MEDIUM SHAFTaUPWARDS TRIANGLE-HEA"
      ++ "DED ARROW WITH MEDIUM SHAFTaRIGHTWARDS TRIANGLE-HEADED ARROW WITH MEDIUM SHAFTaDOWNW"
      ++ "ARDS TRIANGLE-HEADED ARROW WITH MEDIUM SHAFTaLEFTWARDS TRIANGLE-HEADED ARROW WITH BO"
      ++ "LD SHAFTaUPWARDS TRIANGLE-HEADED ARROW WITH BOLD SHAFTaRIGHTWARDS TRIANGLE-HEADED AR"
      ++ "ROW WITH BOLD SHAFTaDOWNWARDS TRIANGLE-HEADED ARROW WITH BOLD SHAFTaLEFTWARDS TRIANG"
      ++ "LE-HEADED ARROW WITH HEAVY SHAFTaUPWARDS TRIANGLE-HEADED ARROW WITH HEAVY SHAFTaRIGH"
      ++ "TWARDS TRIANGLE-HEADED ARROW WITH HEAVY SHAFTaDOWNWARDS TRIANGLE-HEADED ARROW WITH H"
      ++ "EAVY SHAFTaLEFTWARDS TRIANGLE-HEADED ARROW WITH VERY HEAVY SHAFTaUPWARDS TRIANGLE-HE"
      ++ "ADED ARROW WITH VERY HEAVY SHAFTaRIGHTWARDS TRIANGLE-HEADED ARROW WITH VERY HEAVY SH"
      ++ "AFTaDOWNWARDS TRIANGLE-HEADED ARROW WITH VERY HEAVY SHAFTaLEFTWARDS FINGER-POST ARRO"
      ++ "WaUPWARDS FINGER-POST ARROWaRIGHTWARDS FINGER-POST ARROWaDOWNWARDS FINGER-POST ARROW"
      ++ "aLEFTWARDS SQUARED ARROWaUPWARDS SQUARED ARROWaRIGHTWARDS SQUARED ARROWaDOWNWARDS SQ"
      ++ "UARED ARROWaLEFTWARDS COMPRESSED ARROWaUPWARDS COMPRESSED ARROWaRIGHTWARDS COMPRESSE"
      ++ "D ARROWaDOWNWARDS COMPRESSED ARROWaLEFTWARDS HEAVY COMPRESSED ARROWaUPWARDS HEAVY CO"
      ++ "MPRESSED ARROWaRIGHTWARDS HEAVY COMPRESSED ARROWaDOWNWARDS HEAVY COMPRESSED ARROWaLE"
      ++ "FTWARDS HEAVY ARROWaUPWARDS HEAVY ARROWaRIGHTWARDS HEAVY ARROWaDOWNWARDS HEAVY ARROW"),
    (0x1f850, "aLEFTWARDS SANS-SERIF ARROWaUPWARDS SANS-SERIF ARROWaRIGHTWARDS SANS-SERIF ARROWaDOW"
      ++ "NWARDS SANS-SERIF ARROWaNORTH WEST SANS-SERIF ARROWgEAST SANS-SERIF ARROWaSOUTH EAST"
      ++ " SANS-SERIF ARROWgWEST SANS-SERIF ARROWaLEFT RIGHT SANS-SERIF ARROWaUP DOWN SANS-SER"
      ++ "IF ARROW"),
    (0x1f860, "aWIDE-HEADED LEFTWARDS LIGHT BARB ARROWmUPWARDS LIGHT BARB ARROWmRIGHTWARDS LIGHT BA"
      ++ "RB ARROWmDOWNWARDS LIGHT BARB ARROWmNORTH WEST LIGHT BARB ARROWsEAST LIGHT BARB ARRO"
      ++ "WmSOUTH EAST LIGHT BARB ARROWsWEST LIGHT BARB ARROWmLEFTWARDS BARB ARROWmUPWARDS BAR"
      ++ "B ARROWmRIGHTWARDS BARB ARROWmDOWNWARDS BARB ARROWmNORTH WEST BARB ARROWsEAST BARB A"
      ++ "RROWmSOUTH EAST BARB ARROWsWEST BARB ARROWmLEFTWARDS MEDIUM BARB ARROWmUPWARDS MEDIU"
      ++ "M BARB ARROWmRIGHTWARDS MEDIUM BARB ARROWmDOWNWARDS MEDIUM BARB ARROWmNORTH WEST MED"
      ++ "IUM BARB ARROWsEAST MEDIUM BARB ARROWmSOUTH EAST MEDIUM BARB ARROWsWEST MEDIUM BARB "
      ++ "ARROWmLEFTWARDS HEAVY BARB ARROWmUPWARDS HEAVY BARB ARROWmRIGHTWARDS HEAVY BARB ARRO"
      ++ "WmDOWNWARDS HEAVY BARB ARROWmNORTH WEST HEAVY BARB ARROWsEAST HEAVY BARB ARROWmSOUTH"
      ++ " EAST HEAVY BARB ARROWsWEST HEAVY BARB ARROWmLEFTWARDS VERY HEAVY BARB ARROWmUPWARDS"
      ++ " VERY HEAVY BARB ARROWmRIGHTWARDS VERY HEAVY BARB ARROWmDOWNWARDS VERY HEAVY BARB AR"
      ++ "ROWmNORTH WEST VERY HEAVY BARB ARROWsEAST VERY HEAVY BARB ARROWmSOUTH EAST VERY HEAV"
      ++ "Y BARB ARROWsWEST VERY HEAVY BARB ARROW"),
    (0x1f890, "aLEFTWARDS TRIANGLE ARROWHEADaUPWARDS TRIANGLE ARROWHEADaRIGHTWARDS TRIANGLE ARROWHE"
      ++ "ADaDOWNWARDS TRIANGLE ARROWHEADaLEFTWARDS WHITE ARROW WITHIN TRIANGLE ARROWHEADaUPWA"
      ++ "RDS WHITE ARROW WITHIN TRIANGLE ARROWHEADaRIGHTWARDS WHITE ARROW WITHIN TRIANGLE ARR"
      ++ "OWHEADaDOWNWARDS WHITE ARROW WITHIN TRIANGLE ARROWHEADaLEFTWARDS ARROW WITH NOTCHED "
      ++ "TAILaUPWARDS ARROW WITH NOTCHED TAILaRIGHTWARDS ARROW WITH NOTCHED TAILaDOWNWARDS AR"
      ++ "ROW WITH NOTCHED TAILaHEAVY ARROW SHAFT WIDTH ONEyTWO THIRDSyONE HALFγTHIRDaLEFTWARD"
      ++ "S BOTTOM-SHADED WHITE ARROWaRIGHTWARDS BOTTOM SHADED WHITE ARROWaLEFTWARDS TOP SHADE"
      ++ "D WHITE ARROWaRIGHTWARDS TOP SHADED WHITE ARROWaLEFTWARDS LEFT-SHADED WHITE ARROWaRI"
      ++ "GHTWARDS RIGHT-SHADED WHITE ARROWaLEFTWARDS RIGHT-SHADED WHITE ARROWaRIGHTWARDS LEFT"
      ++ "-SHADED WHITE ARROWaLEFTWARDS BACK-TILTED SHADOWED WHITE ARROWaRIGHTWARDS BACK-TILTE"
      ++ "D SHADOWED WHITE ARROWaLEFTWARDS FRONT-TILTED SHADOWED WHITE ARROWaRIGHTWARDS FRONT-"
      ++ "TILTED SHADOWED WHITE ARROWaWHITE ARROW SHAFT WIDTH ONEyTWO THIRDS"),
    (0x1f8b0, "aARROW POINTING UPWARDS THEN NORTH WESTpRIGHTWARDS THEN CURVING SOUTH WEST"),
    (0x1f900, "aCIRCLED CROSS FORMEE WITH FOUR DOTSαTWO DOTSuaLEFT HALF CIRCLE WITH FOUR DOTSwTHREE"
      ++ " DOTSxWO DOTSwDOTqaDOWNWARD FACING HOOKqNOTCHED HOOKqHOOK WITH DOTqNOTCHED HOOK WITH"
      ++ " DOTaPINCHED FINGERSaWHITE HEARTaBROWN HEARTaPINCHING HANDaZIPPER-MOUTH FACEaMONEY-M"
      ++ "OUTH FACEaFACE WITH THERMOMETERaNERD FACEaTHINKING FACEaFACE WITH HEAD-BANDAGEaROBOT"
      ++ " FACEaHUGGING FACEaSIGN OF THE HORNSaCALL ME HANDaRAISED BACK OF HANDaLEFT-FACING FI"
      ++ "STaRIGHT-FACING FISTaHANDSHAKEe WITH INDEX AND MIDDLE FINGERS CROSSEDaI LOVE YOU HAN"
      ++ "D SIGNaFACE WITH COWBOY HATaCLOWN FACEaNAUSEATED FACEaROLLING ON THE FLOOR LAUGHINGa"
      ++ "DROOLING FACEaLYING FACEaFACE PALMaSNEEZING FACEaFACE WITH ONE EYEBROW RAISEDaGRINNI"
      ++ "NG FACE WITH STAR EYEStONE LARGE AND ONE SMALL EYEaFACE WITH FINGER COVERING CLOSED "
      ++ "LIPSaSERIOUS FACE WITH SYMBOLS COVERING MOUTHbMILING FACE WITH SMILING EYES AND HAND"
      ++ " COVERING MOUTHaFACE WITH OPEN MOUTH VOMITINGaSHOCKED FACE WITH EXPLODING HEADaPREGN"
      ++ "ANT WOMANaBREAST-FEEDINGaPALMS UP TOGETHERaSELFIEaPRINCEaMAN IN TUXEDObOTHER CHRISTM"
      ++ "ASaSHRUGaPERSON DOING CARTWHEELaJUGGLINGaFENCERaMODERN PENTATHLONaWRESTLERSbATER POL"
      ++ "OaHANDBALLaDIVING MASK"),
    (0x1f940, "aWILTED FLOWERaDRUM WITH DRUMSTICKSaCLINKING GLASSESaTUMBLER GLASSaSPOONaGOAL NETaRI"
      ++ "FLEaFIRST PLACE MEDALaSECOND PLACE MEDALaTHIRD PLACE MEDALaBOXING GLOVEaMARTIAL ARTS"
      ++ " UNIFORMaCURLING STONEaLACROSSE STICK AND BALLaSOFTBALLaFLYING DISCaCROISSANTaAVOCAD"
      ++ "OaCUCUMBERaBACONaPOTATOaCARROTaBAGUETTE BREADaGREEN SALADaSHALLOW PAN OF FOODbTUFFED"
      ++ " FLATBREADaEGGaGLASS OF MILKaPEANUTSaKIWIFRUITaPANCAKESaDUMPLINGaFORTUNE COOKIEaTAKE"
      ++ "OUT BOXaCHOPSTICKSaBOWL WITH SPOONaCUP WITH STRAWbOCONUTaBROCCOLIaPIEbRETZELaCUT OF "
      ++ "MEATaSANDWICHaCANNED FOODaLEAFY GREENaMANGObOON CAKEaBAGELaSMILING FACE WITH SMILING"
      ++ " EYES AND THREE HEARTSaYAWNING FACEaSMILING FACE WITH TEARaFACE WITH PARTY HORN AND "
      ++ "PARTY HATkUNEVEN EYES AND WAVY MOUTHaOVERHEATED FACEaFREEZING FACEaNINJAaDISGUISED F"
      ++ "ACEaFACE HOLDING BACK TEARSfWITH PLEADING EYESaSARIaLAB COATaGOGGLESaHIKING BOOTaFLA"
      ++ "T SHOE"),
    (0x1f980, "aCRABaLION FACEaSCORPIONaTURKEYaUNICORN FACEaEAGLEaDUCKaBATaSHARKaOWLaFOX FACEaBUTTE"
      ++ "RFLYaDEERaGORILLAaLIZARDaRHINOCEROSaSHRIMPbQUIDaGIRAFFE FACEaZEBRA FACEaHEDGEHOGaSAU"
      ++ "ROPODaT-REXaCRICKETaKANGAROOaLLAMAaPEACOCKaHIPPOPOTAMUSaPARROTaRACCOONaLOBSTERaMOSQU"
      ++ "ITObICROBEaBADGERaSWANaMAMMOTHaDODOaSLOTHaOTTERbRANGUTANaSKUNKaFLAMINGOaOYSTERaBEAVE"
      ++ "RbISONaSEALaGUIDE DOGaPROBING CANEaEMOJI COMPONENT RED HAIRqCURLY HAIRqBALDqWHITE HA"
      ++ "IRaBONEaLEGaFOOTaTOOTHaSUPERHEROfVILLAINbAFETY VESTaEAR WITH HEARING AIDaMOTORIZED W"
      ++ "HEELCHAIRbANUAL WHEELCHAIRbECHANICAL ARMlLEG"),
    (0x1f9c0, "aCHEESE WEDGEbUPCAKEaSALT SHAKERaBEVERAGE BOXaGARLICaONIONaFALAFELaWAFFLEaBUTTERaMAT"
      ++ "E DRINKaICE CUBEaBUBBLE TEAaTROLLaSTANDING PERSONaKNEELING PERSONaDEAF PERSONaFACE W"
      ++ "ITH MONOCLEaADULTaCHILDaOLDER ADULTaBEARDED PERSONaPERSON WITH HEADSCARFhIN STEAMY R"
      ++ "OOMhCLIMBINGhIN LOTUS POSITIONaMAGEaFAIRYaVAMPIREaMERPERSONaELFaGENIEaZOMBIEaBRAINaO"
      ++ "RANGE HEARTaBILLED CAPaSCARFaGLOVESaCOATaSOCKSaRED GIFT ENVELOPEaFIRECRACKERaJIGSAW "
      ++ "PUZZLE PIECEaTEST TUBEaPETRI DISHaDNA DOUBLE HELIXaCOMPASSaABACUSaFIRE EXTINGUISHERa"
      ++ "TOOLBOXaBRICKaMAGNETaLUGGAGEbOTION BOTTLEaSPOOL OF THREADaBALL OF YARNaSAFETY PINaTE"
      ++ "DDY BEARaBROOMbASKETaROLL OF PAPERaBAR OF SOAPaSPONGEaRECEIPTaNAZAR AMULET"),
    (0x1fa00, "aNEUTRAL CHESS KINGoQUEENoROOKoBISHOPoKNIGHToPAWNaWHITE CHESS KNIGHT ROTATED FORTY-F"
      ++ "IVE DEGREESaBLACK CHESS KNIGHT ROTATED FORTY-FIVE DEGREESaNEUTRAL CHESS KNIGHT ROTAT"
      ++ "ED FORTY-FIVE DEGREESaWHITE CHESS KING ROTATED NINETY DEGREESmQUEEN ROTATED NINETY D"
      ++ "EGREESmROOK ROTATED NINETY DEGREESmBISHOP ROTATED NINETY DEGREESmKNIGHT ROTATED NINE"
      ++ "TY DEGREESmPAWN ROTATED NINETY DEGREESaBLACK CHESS KING ROTATED NINETY DEGREESmQUEEN"
      ++ " ROTATED NINETY DEGREESmROOK ROTATED NINETY DEGREESmBISHOP ROTATED NINETY DEGREESmKN"
      ++ "IGHT ROTATED NINETY DEGREESmPAWN ROTATED NINETY DEGREESaNEUTRAL CHESS KING ROTATED N"
      ++ "INETY DEGREESoQUEEN ROTATED NINETY DEGREESoROOK ROTATED NINETY DEGREESoBISHOP ROTATE"
      ++ "D NINETY DEGREESoKNIGHT ROTATED NINETY DEGREESoPAWN ROTATED NINETY DEGREESaWHITE CHE"
      ++ "SS KNIGHT ROTATED ONE HUNDRED THIRTY-FIVE DEGREESaBLACK CHESS KNIGHT ROTATED ONE HUN"
      ++ "DRED THIRTY-FIVE DEGREESaNEUTRAL CHESS KNIGHT ROTATED ONE HUNDRED THIRTY-FIVE DEGREE"
      ++ "SaWHITE CHESS TURNED KINGtQUEENtROOKtBISHOPtKNIGHTtPAWNaBLACK CHESS TURNED KINGtQUEE"
      ++ "NtROOKtBISHOPtKNIGHTtPAWNaNEUTRAL CHESS TURNED KINGvQUEENvROOKvBISHOPvKNIGHTvPAWNaWH"
      ++ "ITE CHESS KNIGHT ROTATED TWO HUNDRED TWENTY-FIVE DEGREESaBLACK CHESS KNIGHT ROTATED "
      ++ "TWO HUNDRED TWENTY-FIVE DEGREESaNEUTRAL CHESS KNIGHT ROTATED TWO HUNDRED TWENTY-FIVE"
      ++ " DEGREESaWHITE CHESS KING ROTATED TWO HUNDRED SEVENTY DEGREESmQUEEN ROTATED TWO HUND"
      ++ "RED SEVENTY DEGREESmROOK ROTATED TWO HUNDRED SEVENTY DEGREESmBISHOP ROTATED TWO HUND"
      ++ "RED SEVENTY DEGREESmKNIGHT ROTATED TWO HUNDRED SEVENTY DEGREESmPAWN ROTATED TWO HUND"
      ++ "RED SEVENTY DEGREESaBLACK CHESS KING ROTATED TWO HUNDRED SEVENTY DEGREESmQUEEN ROTAT"
      ++ "ED TWO HUNDRED SEVENTY DEGREESmROOK ROTATED TWO HUNDRED SEVENTY DEGREESmBISHOP ROTAT"
      ++ "ED TWO HUNDRED SEVENTY DEGREESmKNIGHT ROTATED TWO HUNDRED SEVENTY DEGREESmPAWN ROTAT"
      ++ "ED TWO HUNDRED SEVENTY DEGREESaNEUTRAL CHESS KING ROTATED TWO HUNDRED SEVENTY DEGREE"
      ++ "S"),
    (0x1fa40, "aNEUTRAL CHESS QUEEN ROTATED TWO HUNDRED SEVENTY DEGREESoROOK ROTATED TWO HUNDRED SE"
      ++ "VENTY DEGREESoBISHOP ROTATED TWO HUNDRED SEVENTY DEGREESoKNIGHT ROTATED TWO HUNDRED "
      ++ "SEVENTY DEGREESoPAWN ROTATED TWO HUNDRED SEVENTY DEGREESaWHITE CHESS KNIGHT ROTATED "
      ++ "THREE HUNDRED FIFTEEN DEGREESaBLACK CHESS KNIGHT ROTATED THREE HUNDRED FIFTEEN DEGRE"
      ++ "ESaNEUTRAL CHESS KNIGHT ROTATED THREE HUNDRED FIFTEEN DEGREESaWHITE CHESS EQUIHOPPER"
      ++ "aBLACK CHESS EQUIHOPPERaNEUTRAL CHESS EQUIHOPPERaWHITE CHESS EQUIHOPPER ROTATED NINE"
      ++ "TY DEGREESaBLACK CHESS EQUIHOPPER ROTATED NINETY DEGREESaNEUTRAL CHESS EQUIHOPPER RO"
      ++ "TATED NINETY DEGREESaWHITE CHESS KNIGHT-QUEENtROOKtBISHOPaBLACK CHESS KNIGHT-QUEENtR"
      ++ "OOKtBISHOP"),
    (0x1fa60, "aXIANGQI RED GENERALmMANDARINmELEPHANTmHORSEmCHARIOTnANNONmSOLDIERiBLACK GENERALoMAN"
      ++ "DARINoELEPHANToHORSEoCHARIOTpANNONoSOLDIER"),
    (0x1fa70, "aBALLET SHOESaONE-PIECE SWIMSUITaBRIEFSaSHORTSaTHONG SANDAL"),
    (0x1fa78, "aDROP OF BLOODaADHESIVE BANDAGEaSTETHOSCOPEaX-RAYaCRUTCH"),
    (0x1fa80, "aYO-YOaKITEaPARACHUTEaBOOMERANGaMAGIC WANDaPINATAaNESTING DOLLS"),
    (0x1fa90, "aRINGED PLANETaCHAIRaRAZORaAXEaDIYA LAMPaBANJOaMILITARY HELMETaACCORDIONaLONG DRUMaC"
      ++ "OINbARPENTRY SAWaSCREWDRIVERaLADDERaHOOKaMIRRORaWINDOWaPLUNGERaSEWING NEEDLEaKNOTaBU"
      ++ "CKETaMOUSE TRAPaTOOTHBRUSHaHEADSTONEaPLACARDaROCKaMIRROR BALLaIDENTIFICATION CARDaLO"
      ++ "W BATTERYaHAMSA"),
    (0x1fab0, "aFLYaWORMaBEETLEaCOCKROACHaPOTTED PLANTaWOODaFEATHERaLOTUSaCORALaEMPTY NESTaNEST WIT"
      ++ "H EGGS"),
    (0x1fac0, "aANATOMICAL HEARTaLUNGSaPEOPLE HUGGINGbREGNANT MANjPERSONbERSON WITH CROWN"),
    (0x1fad0, "aBLUEBERRIESbELL PEPPERaOLIVEaFLATBREADaTAMALEaFONDUEaTEAPOTaPOURING LIQUIDaBEANSaJA"
      ++ "R"),
    (0x1fae0, "aMELTING FACEaSALUTING FACEaFACE WITH OPEN EYES AND HAND OVER MOUTHkPEEKING EYEkDIAG"
      ++ "ONAL MOUTHaDOTTED LINE FACEaBITING LIPbUBBLES"),
    (0x1faf0, "aHAND WITH INDEX FINGER AND THUMB CROSSEDaRIGHTWARDS HANDaLEFTWARDS HANDaPALM DOWN H"
      ++ "ANDfUP HANDaINDEX POINTING AT THE VIEWERaHEART HANDS"),
    (0x1fb00, "aBLOCK SEXTANT-1o2o12o3o13o23o123o4o14o24o124o34o134o234o1234o5o15o25o125o35o235o123"
      ++ "5o45o145o245o1245o345o1345o2345o12345o6o16o26o126o36o136o236o1236o46o146p246o346o134"
      ++ "6o2346o12346o56o156o256o1256o356o1356o2356o12356o456o1456o2456o12456o3456o13456o2345"
      ++ "6aLOWER LEFT BLOCK DIAGONAL LOWER MIDDLE LEFT TO LOWER CENTREωWER RIGHTαUPPER MIDDLE"
      ++ " LEFT TO LOWER CENTREωWER RIGHT"),
    (0x1fb40, "aLOWER LEFT BLOCK DIAGONAL UPPER LEFT TO LOWER CENTREgRIGHT BLOCK DIAGONAL UPPER MID"
      ++ "DLE LEFT TO UPPER CENTREωPPER RIGHTβLOWER MIDDLE LEFT TO UPPER CENTREωPPER RIGHTθLEF"
      ++ "T TO UPPER CENTREθMIDDLE LEFT TO UPPER MIDDLE RIGHTθCENTRE TO LOWER MIDDLE RIGHTθLEF"
      ++ "T TO LOWER MIDDLE RIGHTθCENTRE TO UPPER MIDDLE RIGHTθLEFT TO UPPER MIDDLE RIGHTθCENT"
      ++ "RE TO UPPER RIGHTgLEFT BLOCK DIAGONAL UPPER CENTRE TO UPPER MIDDLE RIGHTηLEFT TO UPP"
      ++ "ER MIDDLE RIGHTηCENTRE TO LOWER MIDDLE RIGHTηLEFT TO LOWER MIDDLE RIGHTηCENTRE TO LO"
      ++ "WER RIGHTηMIDDLE LEFT TO LOWER MIDDLE RIGHTaUPPER RIGHT BLOCK DIAGONAL LOWER MIDDLE "
      ++ "LEFT TO LOWER CENTREωOWER RIGHTβUPPER MIDDLE LEFT TO LOWER CENTREωOWER RIGHTθLEFT TO"
      ++ " LOWER CENTREgLEFT BLOCK DIAGONAL UPPER MIDDLE LEFT TO UPPER CENTREωPER RIGHTαLOWER "
      ++ "MIDDLE LEFT TO UPPER CENTREωPER RIGHTηLEFT TO UPPER CENTREηMIDDLE LEFT TO UPPER MIDD"
      ++ "LE RIGHTηCENTRE TO LOWER MIDDLE RIGHTηLEFT TO LOWER MIDDLE RIGHTηCENTRE TO UPPER MID"
      ++ "DLE RIGHTηLEFT TO UPPER MIDDLE RIGHTηCENTRE TO UPPER RIGHTgRIGHT BLOCK DIAGONAL UPPE"
      ++ "R CENTRE TO UPPER MIDDLE RIGHTθLEFT TO UPPER MIDDLE RIGHTθCENTRE TO LOWER MIDDLE RIG"
      ++ "HTθLEFT TO LOWER MIDDLE RIGHTθCENTRE TO LOWER RIGHTθMIDDLE LEFT TO LOWER MIDDLE RIGH"
      ++ "TgAND RIGHT AND LOWER TRIANGULAR THREE QUARTERS BLOCKaLEFT AND LOWER AND RIGHT TRIAN"
      ++ "GULAR THREE QUARTERS BLOCKaUPPER AND LEFT AND LOWER TRIANGULAR THREE QUARTERS BLOCKa"
      ++ "LEFT AND UPPER AND RIGHT TRIANGULAR THREE QUARTERS BLOCKfTRIANGULAR ONE QUARTER BLOC"
      ++ "KaUPPER TRIANGULAR ONE QUARTER BLOCKaRIGHT TRIANGULAR ONE QUARTER BLOCKaLOWER TRIANG"
      ++ "ULAR ONE QUARTER BLOCKaVERTICAL ONE EIGHTH BLOCK-2α3α4α5α6α7aHORIZONTAL ONE EIGHTH B"
      ++ "LOCK-2γ3γ4γ5γ6γ7aLEFT AND LOWER ONE EIGHTH BLOCKjUPPER ONE EIGHTH BLOCKaRIGHT AND UP"
      ++ "PER ONE EIGHTH BLOCKkLOWER ONE EIGHTH BLOCK"),
    (0x1fb80, "aUPPER AND LOWER ONE EIGHTH BLOCKaHORIZONTAL ONE EIGHTH BLOCK-1358aUPPER ONE QUARTER"
      ++ " BLOCKgTHREE EIGHTHS BLOCKgFIVE EIGHTHS BLOCKgTHREE QUARTERS BLOCKgSEVEN EIGHTHS BLO"
      ++ "CKaRIGHT ONE QUARTER BLOCKgTHREE EIGHTHS BLOCKgFIVE EIGHTHS BLOCKgTHREE QUARTERS BLO"
      ++ "CKgSEVEN EIGHTHS BLOCKaLEFT HALF MEDIUM SHADEaRIGHT HALF MEDIUM SHADEaUPPER HALF MED"
      ++ "IUM SHADEaLOWER HALF MEDIUM SHADEaINVERSE MEDIUM SHADEaUPPER HALF BLOCK AND LOWER HA"
      ++ "LF INVERSE MEDIUM SHADElINVERSE MEDIUM SHADE AND LOWER HALF BLOCK"),
    (0x1fb94, "aLEFT HALF INVERSE MEDIUM SHADE AND RIGHT HALF BLOCKaCHECKER BOARD FILLaINVERSE CHEC"
      ++ "KER BOARD FILLaHEAVY HORIZONTAL FILLaUPPER LEFT TO LOWER RIGHT FILLgRIGHT TO LOWER L"
      ++ "EFT FILLgAND LOWER TRIANGULAR HALF BLOCKaLEFT AND RIGHT TRIANGULAR HALF BLOCKaUPPER "
      ++ "LEFT TRIANGULAR MEDIUM SHADEgRIGHT TRIANGULAR MEDIUM SHADEaLOWER RIGHT TRIANGULAR ME"
      ++ "DIUM SHADEgLEFT TRIANGULAR MEDIUM SHADEaBOX DRAWINGS LIGHT DIAGONAL UPPER CENTRE TO "
      ++ "MIDDLE LEFTωE RIGHTγMIDDLE LEFT TO LOWER CENTREκRIGHT TO LOWER CENTREγUPPER CENTRE T"
      ++ "O MIDDLE LEFT TO LOWER CENTREωE RIGHT TO LOWER CENTREγMIDDLE LEFT TO LOWER CENTRE TO"
      ++ " MIDDLE RIGHTσUPPER CENTRE TO MIDDLE RIGHTγUPPER CENTRE TO MIDDLE LEFT AND MIDDLE RI"
      ++ "GHT TO LOWER CENTREωE RIGHT AND MIDDLE LEFT TO LOWER CENTREωE RIGHT TO LOWER CENTRE "
      ++ "TO MIDDLE LEFTωE LEFT TO LOWER CENTRE TO MIDDLE RIGHTγMIDDLE LEFT TO UPPER CENTRE TO"
      ++ " MIDDLE RIGHT TO LOWER CENTREκRIGHT TO UPPER CENTRE TO MIDDLE LEFT TO LOWER CENTREγD"
      ++ "IAMONDtHORIZONTAL WITH VERTICAL STROKEaARROWHEAD-SHAPED POINTERaINVERSE CHECK MARKaL"
      ++ "EFT HALF RUNNING MANaRIGHT HALF RUNNING MANaINVERSE DOWNWARDS ARROW WITH TIP LEFTWAR"
      ++ "DSaLEFTWARDS ARROW AND UPPER AND LOWER ONE EIGHTH BLOCKaRIGHTWARDS ARROW AND UPPER A"
      ++ "ND LOWER ONE EIGHTH BLOCKaDOWNWARDS ARROW AND RIGHT ONE EIGHTH BLOCKaUPWARDS ARROW A"
      ++ "ND RIGHT ONE EIGHTH BLOCKaLEFT HALF FOLDERaRIGHT HALF FOLDERaVOIDED GREEK CROSSaRIGH"
      ++ "T OPEN SQUARED DOTaNEGATIVE DIAGONAL CROSSsMIDDLE RIGHT TO LOWER CENTREsDIAMONDaWHIT"
      ++ "E HEAVY SALTIRE WITH ROUNDED CORNERSaLEFT THIRD WHITE RIGHT POINTING INDEXaMIDDLE TH"
      ++ "IRD WHITE RIGHT POINTING INDEXaRIGHT THIRD WHITE RIGHT POINTING INDEXaNEGATIVE SQUAR"
      ++ "ED QUESTION MARKaSTICK FIGUREm WITH ARMS RAISEDnLEANING LEFTvRIGHTnWITH DRESSaWHITE "
      ++ "UP-POINTING CHEVRON"),
    (0x1fbf0, "aSEGMENTED DIGIT ZEROqONEqTWOrHREEqFOURrIVEqSIXrEVENqEIGHTqNINE"),
    (0xe0001, "aLANGUAGE TAG"),
    (0xe0020, "aTAG SPACEeEXCLAMATION MARKeQUOTATION MARKeNUMBER SIGNeDOLLAR SIGNePERCENT SIGNeAMPE"
      ++ "RSANDfPOSTROPHEeLEFT PARENTHESISeRIGHT PARENTHESISeASTERISKePLUS SIGNeCOMMAeHYPHEN-M"
      ++ "INUSeFULL STOPeSOLIDUSeDIGIT ZEROkONEkTWOlHREEkFOURlIVEkSIXlEVENkEIGHTkNINEeCOLONeSE"
      ++ "MICOLONeLESS-THAN SIGNeEQUALS SIGNeGREATER-THAN SIGNeQUESTION MARKeCOMMERCIAL ATeLAT"
      ++ "IN CAPITAL LETTER AzBzCzDzEzFzGzHzIzJzKzLzMzNzOzPzQzRzSzTzUzVzWzXzYzZfEFT SQUARE BRA"
      ++ "CKETeREVERSE SOLIDUSfIGHT SQUARE BRACKETeCIRCUMFLEX ACCENTeLOW LINE"),
    (0xe0060, "aTAG GRAVE ACCENTeLATIN SMALL LETTER AxBxCxDxExFxGxHxIxJxKxLxMxNxOxPxQxRxSxTxUxVxWxX"
      ++ "xYxZfEFT CURLY BRACKETeVERTICAL LINEeRIGHT CURLY BRACKETeTILDEaCANCEL TAG"),
    (0xe0100, "aVARIATION SELECTOR-17u8u9t20u1u2u3u4u5u6u7u8u9t30u1u2u3u4u5u6u7u8u9t40u1u2u3u4u5u6u"
      ++ "7u8u9t50u1u2u3u4u5u6u7u8u9t60u1u2u3u4u5u6u7u8u9t70u1u2u3u4u5u6u7u8u9t80"),
    (0xe0140, "aVARIATION SELECTOR-81u2u3u4u5u6u7u8u9t90u1u2u3u4u5u6u7u8u9t100v1v2v3v4v5v6v7v8v9u10"
      ++ "v1v2v3v4v5v6v7v8v9u20v1v2v3v4v5v6v7v8v9u30v1v2v3v4v5v6v7v8v9u40v1v2v3v4"),
    (0xe0180, "aVARIATION SELECTOR-145v6v7v8v9u50v1v2v3v4v5v6v7v8v9u60v1v2v3v4v5v6v7v8v9u70v1v2v3v4"
      ++ "v5v6v7v8v9u80v1v2v3v4v5v6v7v8v9u90v1v2v3v4v5v6v7v8v9t200v1v2v3v4v5v6v7v8"),
    (0xe01c0, "aVARIATION SELECTOR-209u10v1v2v3v4v5v6v7v8v9u20v1v2v3v4v5v6v7v8v9u30v1v2v3v4v5v6v7v8"
      ++ "v9u40v1v2v3v4v5v6v7v8v9u50v1v2v3v4v5v6")
  ]

end ApiBridge.Text
