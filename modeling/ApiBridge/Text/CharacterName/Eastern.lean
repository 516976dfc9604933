/-!
# Names of characters: eastern

Radicals, kana, further letters and compatibility characters. A run starts at a code point; a
name starts with a mark for how much it shares with the one before.
-/

namespace ApiBridge.Text

/-- The names of these characters, in runs. -/
def easternNames : List (Nat × String) :=
  [
    (0x2e20, "aLEFT VERTICAL BAR WITH QUILLaRIGHT VERTICAL BAR WITH QUILLaTOP LEFT HALF BRACKETeRI"
      ++ "GHT HALF BRACKETaBOTTOM LEFT HALF BRACKEThRIGHT HALF BRACKETaLEFT SIDEWAYS U BRACKET"
      ++ "aRIGHT SIDEWAYS U BRACKETaLEFT DOUBLE PARENTHESISaRIGHT DOUBLE PARENTHESISaTWO DOTS "
      ++ "OVER ONE DOT PUNCTUATIONaONE DOT OVER TWO DOTS PUNCTUATIONaSQUARED FOUR DOT PUNCTUAT"
      ++ "IONaFIVE DOT MARKaREVERSED QUESTION MARKaVERTICAL TILDEaRING POINTaWORD SEPARATOR MI"
      ++ "DDLE DOTaTURNED COMMAaRAISED DOThCOMMAaTURNED SEMICOLONaDAGGER WITH LEFT GUARDmRIGHT"
      ++ " GUARDaTURNED DAGGERbOP HALF SECTION SIGNbWO-EM DASHbHREE-EM DASHaSTENOGRAPHIC FULL "
      ++ "STOPaVERTICAL SIX DOTSaWIGGLY VERTICAL LINEaCAPITULUMaDOUBLE HYPHENaREVERSED COMMAaD"
      ++ "OUBLE LOW-REVERSED-9 QUOTATION MARKbASH WITH LEFT UPTURNbOUBLE SUSPENSION MARKaINVER"
      ++ "TED LOW KAVYKAt WITH KAVYKA ABOVEaLOW KAVYKAk WITH DOTaDOUBLE STACKED COMMAcTTED SOL"
      ++ "IDUSaTRIPLE DAGGERaMEDIEVAL COMMAaPARAGRAPHUS MARKbUNCTUS ELEVATUS MARKaCORNISH VERS"
      ++ "E DIVIDERbROSS PATTY WITH RIGHT CROSSBARrLEFT CROSSBARaTIRONIAN SIGN CAPITAL ETaMEDI"
      ++ "EVAL EXCLAMATION MARKjQUESTION MARKaLEFT SQUARE BRACKET WITH STROKEaRIGHT SQUARE BRA"
      ++ "CKET WITH STROKEaLEFT SQUARE BRACKET WITH DOUBLE STROKEaRIGHT SQUARE BRACKET WITH DO"
      ++ "UBLE STROKEaTOP HALF LEFT PARENTHESISjRIGHT PARENTHESISaBOTTOM HALF LEFT PARENTHESIS"
      ++ "mRIGHT PARENTHESISaOBLIQUE HYPHEN"),
    (0x2e80, "aCJK RADICAL REPEATmCLIFFmSECOND ONEtTWOuHREEmPERSONmBOXmTABLEmKNIFE ONEsTWOmDIVINAT"
      ++ "IONmSEALnMALL ONEsTWOmLAME ONErTWOsHREErFOURmSNAKEmTHREADmSNOUT ONEsTWOmHEART ONEsTW"
      ++ "OnANDmRAP"),
    (0x2e9b, "aCJK RADICAL CHOKEmSUNmMOONmDEATHmMOTHERmCIVILIANmWATER ONEsTWOmFIREmPAW ONEqTWOmSIM"
      ++ "PLIFIED HALF TREE TRUNKmCOWmDOGmJADEmBOLT OF CLOTHmEYEmSPIRIT ONEtTWOmBAMBOOmSILKmC-"
      ++ "SIMPLIFIED SILKmNET ONEqTWOrHREEqFOURmMESHmSHEEPmRAMmEWEmOLDmBRUSH ONEsTWOmMEATnORTA"
      ++ "RmGRASS ONEsTWOtHREEmTIGERmCLOTHESmWEST ONErTWOmC-SIMPLIFIED SEEmSIMPLIFIED HORNmHOR"
      ++ "NmC-SIMPLIFIED SPEECHαHELLmFOOTmC-SIMPLIFIED CARTmSIMPLIFIED WALKmWALK ONErTWOmCITYn"
      ++ "-SIMPLIFIED GOLDmLONG ONErTWOmC-SIMPLIFIED LONGzGATEmMOUND ONEsTWOmRAINmBLUEmC-SIMPL"
      ++ "IFIED TANNED LEATHERzLEAF"),
    (0x2edb, "aCJK RADICAL C-SIMPLIFIED WINDzFLYmEAT ONEqTWOrHREEmC-SIMPLIFIED EATmHEADmC-SIMPLIFI"
      ++ "ED HORSEmBONEmGHOSTmC-SIMPLIFIED FISHzBIRDzSALTmSIMPLIFIED WHEATxYELLOWmC-SIMPLIFIED"
      ++ " FROGmJ-SIMPLIFIED EVENmC-SIMPLIFIED EVENmJ-SIMPLIFIED TOOTHmC-SIMPLIFIED TOOTHmJ-SI"
      ++ "MPLIFIED DRAGONmC-SIMPLIFIED DRAGONmTURTLEmJ-SIMPLIFIED TURTLEmC-SIMPLIFIED TURTLE"),
    (0x2f00, "aKANGXI RADICAL ONEpLINEpDOTpSLASHqECONDpHOOKpTWOpLIDpMANpLEGSpENTERqIGHTpDOWN BOXpC"
      ++ "OVERpICEpTABLEpOPEN BOXpKNIFEpPOWERpWRAPpSPOONpRIGHT OPEN BOXpHIDING ENCLOSUREpTENpD"
      ++ "IVINATIONpSEALpCLIFFpPRIVATEpAGAINpMOUTHpENCLOSUREqARTHpSCHOLARpGOr SLOWLYpEVENINGpB"
      ++ "IGpWOMANpCHILDpROOFpINCHpSMALLpLAMEpCORPSEpSPROUTpMOUNTAINpRIVERpWORKpONESELFpTURBAN"
      ++ "pDRYpSHORT THREADpDOTTED CLIFFpLONG STRIDEpTWO HANDSpSHOOTpBOWpSNOUTpBRISTLEpSTEPpHE"
      ++ "ARTqALBERDpDOORpHAND"),
    (0x2f40, "aKANGXI RADICAL BRANCHpRAPpSCRIPTpDIPPERpAXEpSQUAREpNOTpSUNqAYpMOONpTREEpLACKpSTOPpD"
      ++ "EATHpWEAPONpDO NOTpCOMPAREpFURpCLANpSTEAMpWATERpFIREpCLAWpFATHERpDOUBLE XpHALF TREE "
      ++ "TRUNKpSLICEpFANGpCOWpDOGpPROFOUNDpJADEpMELONpTILEpSWEETpLIFEpUSEpFIELDpBOLT OF CLOTH"
      ++ "pSICKNESSpDOTTED TENTpWHITEpSKINpDISHpEYEpSPEARpARROWpSTONEqPIRITpTRACKpGRAINpCAVEpS"
      ++ "TANDpBAMBOOpRICEpSILKpJARpNETpSHEEPpFEATHERpOLDpANDpPLOWpEAR"),
    (0x2f80, "aKANGXI RADICAL BRUSHpMEATqINISTERpSELFpARRIVEpMORTARpTONGUEpOPPOSEpBOATpSTOPPINGpCO"
      ++ "LORpGRASSpTIGERpINSECTpBLOODpWALK ENCLOSUREpCLOTHESpWESTpSEEpHORNpSPEECHpVALLEYpBEAN"
      ++ "pPIGpBADGERpSHELLpREDqUNpFOOTpBODYpCARTpBITTERpMORNINGpWALKpCITYpWINEpDISTINGUISHpVI"
      ++ "LLAGEpGOLDpLONGpGATEpMOUNDpSLAVEqHORT TAILED BIRDpRAINpBLUEpWRONGpFACEpLEATHERpTANNE"
      ++ "D LEATHERpLEEKpSOUNDpLEAFpWINDpFLYpEATpHEADpFRAGRANTpHORSEpBONEpTALLpHAIRpFIGHTpSACR"
      ++ "IFICIAL WINE"),
    (0x2fc0, "aKANGXI RADICAL CAULDRONpGHOSTpFISHpBIRDpSALTpDEERpWHEATpHEMPpYELLOWpMILLETpBLACKpEM"
      ++ "BROIDERYpFROGpTRIPODpDRUMpRATpNOSEpEVENpTOOTHpDRAGONpTURTLEpFLUTE"),
    (0x2ff0, "aIDEOGRAPHIC DESCRIPTION CHARACTER LEFT TO RIGHTιABOVE TO BELOWιLEFT TO MIDDLE AND R"
      ++ "IGHTιABOVE TO MIDDLE AND BELOWιFULL SURROUNDιSURROUND FROM ABOVEψBELOWψLEFTψUPPER LE"
      ++ "FTωPPER RIGHTψLOWER LEFTιOVERLAID"),
    (0x3000, "aIDEOGRAPHIC SPACEmCOMMAmFULL STOPaDITTO MARKaJAPANESE INDUSTRIAL STANDARD SYMBOLaID"
      ++ "EOGRAPHIC ITERATION MARKmCLOSING MARKmNUMBER ZEROaLEFT ANGLE BRACKETaRIGHT ANGLE BRA"
      ++ "CKETaLEFT DOUBLE ANGLE BRACKETaRIGHT DOUBLE ANGLE BRACKETaLEFT CORNER BRACKETaRIGHT "
      ++ "CORNER BRACKETaLEFT WHITE CORNER BRACKETaRIGHT WHITE CORNER BRACKETaLEFT BLACK LENTI"
      ++ "CULAR BRACKETaRIGHT BLACK LENTICULAR BRACKETaPOSTAL MARKaGETA MARKaLEFT TORTOISE SHE"
      ++ "LL BRACKETaRIGHT TORTOISE SHELL BRACKETaLEFT WHITE LENTICULAR BRACKETaRIGHT WHITE LE"
      ++ "NTICULAR BRACKETaLEFT WHITE TORTOISE SHELL BRACKETaRIGHT WHITE TORTOISE SHELL BRACKE"
      ++ "TaLEFT WHITE SQUARE BRACKETaRIGHT WHITE SQUARE BRACKETaWAVE DASHaREVERSED DOUBLE PRI"
      ++ "ME QUOTATION MARKaDOUBLE PRIME QUOTATION MARKaLOW DOUBLE PRIME QUOTATION MARKaPOSTAL"
      ++ " MARK FACEaHANGZHOU NUMERAL ONErTWOsHREErFOURsIVErSIXsEVENrEIGHTrNINEaIDEOGRAPHIC LE"
      ++ "VEL TONE MARKmRISING TONE MARKmDEPARTING TONE MARKmENTERING TONE MARKaHANGUL SINGLE "
      ++ "DOT TONE MARKhDOUBLE DOT TONE MARKaWAVY DASHaVERTICAL KANA REPEAT MARKvWITH VOICED S"
      ++ "OUND MARKvMARK UPPER HALFvWITH VOICED SOUND MARK UPPER HALFvMARK LOWER HALFaCIRCLED "
      ++ "POSTAL MARKaIDEOGRAPHIC TELEGRAPH LINE FEED SEPARATOR SYMBOLaHANGZHOU NUMERAL TENsWE"
      ++ "NTYsHIRTYaVERTICAL IDEOGRAPHIC ITERATION MARKaMASU MARKaPART ALTERNATION MARKaIDEOGR"
      ++ "APHIC VARIATION INDICATORmHALF FILL SPACE"),
    (0x3041, "aHIRAGANA LETTER SMALL AqAqSMALL IqIqSMALL UqUqSMALL EqEqSMALL OqOqKAqGAqKIqGIqKUqGU"
      ++ "qKEqGEqKOqGOqSAqZAqSIqZIqSUqZUqSEqZEqSOqZOqTAqDAqTIqDIqSMALL TUqTUqDUqTEqDEqTOqDOqNA"
      ++ "rIrUrErOqHAqBAqPAqHIqBIqPIqHUqBUqPUqHEqBEqPEqHOqBOqPOqMArIrU"),
    (0x3081, "aHIRAGANA LETTER MErOqSMALL YAqYAqSMALL YUqYUqSMALL YOqYOqRArIrUrErOqSMALL WAqWArIrE"
      ++ "rOqNqVUqSMALL KAxE"),
    (0x3099, "aCOMBINING KATAKANA-HIRAGANA VOICED SOUND MARKγSEMI-VOICED SOUND MARKaKATAKANA-HIRAG"
      ++ "ANA VOICED SOUND MARKsSEMI-VOICED SOUND MARKaHIRAGANA ITERATION MARKjVOICED ITERATIO"
      ++ "N MARKjDIGRAPH YORIaKATAKANA-HIRAGANA DOUBLE HYPHENi LETTER SMALL AqAqSMALL IqIqSMAL"
      ++ "L UqUqSMALL EqEqSMALL OqOqKAqGAqKIqGIqKUqGUqKEqGEqKOqGOqSAqZAqSIqZIqSUqZUqSEqZEqSOqZ"
      ++ "OqTAqDAqTIqDIqSMALL TUqTUqDUqTEqDEqTOqDOqNArIrUrErOqHAqBAqPAqHIqBIqPIqHUqBUqPUqHE"),
    (0x30d9, "aKATAKANA LETTER BEqPEqHOqBOqPOqMArIrUrErOqSMALL YAqYAqSMALL YUqYUqSMALL YOqYOqRArIr"
      ++ "UrErOqSMALL WAqWArIrErOqNqVUqSMALL KAxEqVArIrErOjMIDDLE DOTi-HIRAGANA PROLONGED SOUN"
      ++ "D MARKi ITERATION MARKjVOICED ITERATION MARKjDIGRAPH KOTO"),
    (0x3105, "aBOPOMOFO LETTER BqPqMqFqDqTqNqLqGqKqHqJqQqXqZHqCHqSHqRqZqCqSqAqOqErHqAIqEIqAUqOUqAN"
      ++ "qENqANGqENGrRqIqUqIUqVqNGqGNqIHqO WITH DOT ABOVEqNN"),
    (0x3131, "aHANGUL LETTER KIYEOKoSSANGKIYEOKoKIYEOK-SIOSoNIEUNt-CIEUCuHIEUHoTIKEUToSSANGTIKEUTo"
      ++ "RIEULt-KIYEOKuMIEUMuPIEUPuSIOSuTHIEUTHuPHIEUPHuHIEUHoMIEUMoPIEUPoSSANGPIEUPoPIEUP-SI"
      ++ "OSoSIOSpSANGSIOSoIEUNGoCIEUCoSSANGCIEUCoCHIEUCHoKHIEUKHoTHIEUTHoPHIEUPHoHIEUHoApEoYA"
      ++ "qEoEOpoYEOqoOoWAqEoOEoYOoUoWEOqpIoYUoEUoYIoIhFILLERhLETTER SSANGNIEUNoNIEUN-TIKEUTuS"
      ++ "IOSuPANSIOSoRIEUL-KIYEOK-SIOSuTIKEUTuPIEUP-SIOSvANSIOSuYEORINHIEUHoMIEUM-PIEUPuSIOSu"
      ++ "PANSIOS"),
    (0x3171, "aHANGUL LETTER KAPYEOUNMIEUMoPIEUP-KIYEOKuTIKEUTuSIOS-KIYEOKzTIKEUTuCIEUCuTHIEUTHoKA"
      ++ "PYEOUNPIEUPwSSANGPIEUPoSIOS-KIYEOKtNIEUNtTIKEUTtPIEUPtCIEUCoPANSIOSoSSANGIEUNGoYESIE"
      ++ "UNGw-SIOSxPANSIOSoKAPYEOUNPHIEUPHoSSANGHIEUHoYEORINHIEUHpO-YAtErIpU-YEOtrIoARAEAtE"),
    (0x3190, "aIDEOGRAPHIC ANNOTATION LINKING MARKxREVERSE MARKxONE MARKxTWO MARKyHREE MARKxFOUR M"
      ++ "ARKxTOP MARKxMIDDLE MARKxBOTTOM MARKxFIRST MARKxSECOND MARKxTHIRD MARKxFOURTH MARKxH"
      ++ "EAVEN MARKxEARTH MARKxMAN MARKaBOPOMOFO LETTER BUqZIqJIqGUqEErNNqOOrNNqIRqANNqINNqUN"
      ++ "NqIMqNGGqAINNrUNNrMqOMrNGqINNNjFINAL LETTER PwTwKwHjLETTER GHqLHqZYjFINAL LETTER GjL"
      ++ "ETTER GWqKWqOEqAHaCJK STROKE TlWGlXGlBXGlSWlHZZnGmPmZWGlSZWGlHZTnZPmPWGmZWnZZlN"),
    (0x31d0, "aCJK STROKE HlSlPlSPlDlHZmGlSZmWZmTmGlPDmZlTNlSZZmWGlHXWGmZZZGlPGlQ"),
    (0x31f0, "aKATAKANA LETTER SMALL KUwSIxUwTOwNUwHAxIxUxExOwMUwRAxIxUxExOaPARENTHESIZED HANGUL K"
      ++ "IYEOKvNIEUNvTIKEUTvRIEULvMIEUMvPIEUPvSIOSvIEUNGvCIEUCwHIEUCHvKHIEUKHvTHIEUTHvPHIEUPH"
      ++ "vHIEUHvKIYEOK AvNIEUN AvTIKEUT AvRIEUL AvMIEUM AvPIEUP AvSIOS AvIEUNG AvCIEUC AwHIEU"
      ++ "CH AvKHIEUKH AvTHIEUTH AvPHIEUPH AvHIEUH AvCIEUC UoKOREAN CHARACTER OJEONη HU"),
    (0x3220, "aPARENTHESIZED IDEOGRAPH ONEyTWOzHREEyFOURzIVEySIXzEVENyEIGHTyNINEyTENyMOONyFIREyWAT"
      ++ "ERzOODyMETALyEARTHySUNzTOCKyHAVEySOCIETYyNAMEySPECIALyFINANCIALyCONGRATULATIONyLABOR"
      ++ "yREPRESENTyCALLySTUDYzUPERVISEyENTERPRISEyRESOURCEyALLIANCEyFESTIVALyRESTySELFyREACH"
      ++ "aCIRCLED IDEOGRAPH QUESTIONsKINDERGARTENsSCHOOLsKOTOiNUMBER TEN ON BLACK SQUAREqWENT"
      ++ "Y ON BLACK SQUAREqHIRTY ON BLACK SQUAREpFORTY ON BLACK SQUAREqIFTY ON BLACK SQUAREpS"
      ++ "IXTY ON BLACK SQUAREqEVENTY ON BLACK SQUAREpEIGHTY ON BLACK SQUAREaPARTNERSHIP SIGNa"
      ++ "CIRCLED NUMBER TWENTY ONEwTWOxHREEwFOURxIVEwSIXxEVENwEIGHTwNINEqHIRTYv ONEwTWOxHREEw"
      ++ "FOURxIVE"),
    (0x3260, "aCIRCLED HANGUL KIYEOKpNIEUNpTIKEUTpRIEULpMIEUMpPIEUPpSIOSpIEUNGpCIEUCqHIEUCHpKHIEUK"
      ++ "HpTHIEUTHpPHIEUPHpHIEUHpKIYEOK ApNIEUN ApTIKEUT ApRIEUL ApMIEUM ApPIEUP ApSIOS ApIEU"
      ++ "NG ApCIEUC AqHIEUCH ApKHIEUKH ApTHIEUTH ApPHIEUPH ApHIEUH AiKOREAN CHARACTER CHAMKOz"
      ++ "JUEUIiHANGUL IEUNG UaKOREAN STANDARD SYMBOLaCIRCLED IDEOGRAPH ONEsTWOtHREEsFOURtIVEs"
      ++ "SIXtEVENsEIGHTsNINEsTENsMOONsFIREsWATERtOODsMETALsEARTHsSUNtTOCKsHAVEsSOCIETYsNAMEsS"
      ++ "PECIALsFINANCIALsCONGRATULATIONsLABORsSECRETsMALEsFEMALEsSUITABLEsEXCELLENTsPRINTsAT"
      ++ "TENTION"),
    (0x32a0, "aCIRCLED IDEOGRAPH ITEMsRESTsCOPYuRRECTsHIGHsCENTREsLOWtEFTsRIGHTsMEDICINEsRELIGIONs"
      ++ "STUDYtUPERVISEsENTERPRISEsRESOURCEsALLIANCEsNIGHTiNUMBER THIRTY SIXxEVENwEIGHTwNINEp"
      ++ "FORTYu ONEvTWOwHREEvFOURwIVEvSIXwEVENvEIGHTvNINEqIFTYaIDEOGRAPHIC TELEGRAPH SYMBOL F"
      ++ "OR JANUARYθFEBRUARYθMARCHθAPRILθMAYθJUNEκLYθAUGUSTθSEPTEMBERθOCTOBERθNOVEMBERθDECEMB"
      ++ "ERaSQUARE HGhERGiVaLIMITED LIABILITY SIGNaCIRCLED KATAKANA ArIrUrErOrKAsIsUsEsOrSAsI"
      ++ "sUsEsOrTA"),
    (0x32e0, "aCIRCLED KATAKANA TIsUsEsOrNAsIsUsEsOrHAsIsUsEsOrMAsIsUsEsOrYAsUsOrRAsIsUsEsOrWAsIsE"
      ++ "sOaSQUARE ERA NAME REIWAhAPAATOiRUHUAiNPEAiARUhININGUjTIhUONhESUKUUDOiEKAAhONSUiOMUh"
      ++ "KAIRIjRATTOkORIIhGARONjNMAiIGAjNIIhKYURIIhGIRUDAAhKIROlGURAMUlMEETORUlWATTOhGURAMUnT"
      ++ "ONhKURUZEIROkOONEiEESUiORUNAjOPOhSAIKURU"),
    (0x3320, "aSQUARE SANTIIMUiIRINGUiENTIlOhDAASUiESIiORUhTONhNANOiOTTOhHAITUhPAASENTOkTUhBAARERU"
      ++ "hPIASUTORUjKURUkOhBIRUhHUARADDOjIITOhBUSSYERUhHURANiEKUTAARUhPESOjNIHIhHERUTUhPENSUj"
      ++ "EZIhBEETAhPOINTOhBORUTOhHONhPONDOhHOORUkNhMAIKUROkRUjHHAjRUKUjNSYONiIKURONjRIlBAARUi"
      ++ "EGAlTONjETORUhYAADOkRUiUANhRITTORUjRAiUPIIjUBURUiEMUjNTOGENhWATTOaIDEOGRAPHIC TELEGR"
      ++ "APH SYMBOL FOR HOUR ZEROνONEνTWOξHREEνFOURξIVEνSIXξEVEN"),
    (0x3360, "aIDEOGRAPHIC TELEGRAPH SYMBOL FOR HOUR EIGHTνNINEνTENνELEVENνTWELVEξHIRTEENνFOURTEEN"
      ++ "ξIFTEENνSIXTEENξEVENTEENνEIGHTEENνNINETEENνTWENTYτ-ONEυTWOφHREEυFOURaSQUARE HPAhDAhA"
      ++ "UhBARhOVhPChDMj SQUAREDkCUBEDhIUhERA NAME HEISEIqSYOUWAqTAISYOUqMEIZIhCORPORATIONhPA"
      ++ " AMPShNAhMU AiAhKAiBhMBhGBhCALhKCALhPFhNFhMU FkGiGhKGhHZhKHZhMHZhGHZhTHZhMU LiLhDLhK"
      ++ "LhFMhNMhMU MiMhCMhKMhMM SQUARED"),
    (0x33a0, "aSQUARE CM SQUAREDhM SQUAREDhKM SQUAREDhMM CUBEDhCM CUBEDhM CUBEDhKM CUBEDhM OVER Sp"
      ++ " SQUAREDhPAhKPAhMPAhGPAhRADk OVER Sr SQUAREDhPShNShMU SiShPVhNVhMU ViVhKVhMV MEGAhPW"
      ++ "hNWhMU WiWhKWhMW MEGAhK OHMhM OHMhAMhBQhCCiDi OVER KGiOhDBhGYhHAiPhINhKKiM CAPITALiT"
      ++ "hLMiNiOGiXhMB SMALLiILiOLhPHiMiPMiRhSRiVhWBhV OVER MhA OVER M"),
    (0x33e0, "aIDEOGRAPHIC TELEGRAPH SYMBOL FOR DAY ONEμTWOνHREEμFOURνIVEμSIXνEVENμEIGHTμNINEμTENμ"
      ++ "ELEVENμTWELVEνHIRTEENμFOURTEENνIFTEENμSIXTEENνEVENTEENμEIGHTEENμNINETEENμTWENTYσ-ONE"
      ++ "τTWOυHREEτFOURυIVEτSIXυEVENτEIGHTτNINEνHIRTYσ-ONEaSQUARE GAL"),
    (0x4dc0, "aHEXAGRAM FOR THE CREATIVE HEAVENrRECEPTIVE EARTHnDIFFICULTY AT THE BEGINNINGnYOUTHF"
      ++ "UL FOLLYnWAITINGnCONFLICTnTHE ARMYnHOLDING TOGETHERnSMALL TAMINGnTREADINGnPEACEnSTAN"
      ++ "DSTILLnFELLOWSHIPnGREAT POSSESSIONnMODESTYnENTHUSIASMnFOLLOWINGnWORK ON THE DECAYEDn"
      ++ "APPROACHnCONTEMPLATIONnBITING THROUGHnGRACEnSPLITTING APARTnRETURNnINNOCENCEnGREAT T"
      ++ "AMINGnMOUTH CORNERSnGREAT PREPONDERANCEnTHE ABYSMAL WATERrCLINGING FIREnINFLUENCEnDU"
      ++ "RATIONnRETREATnGREAT POWERnPROGRESSnDARKENING OF THE LIGHTnTHE FAMILYnOPPOSITIONoBST"
      ++ "RUCTIONnDELIVERANCEpCREASEnINCREASEnBREAKTHROUGHnCOMING TO MEETnGATHERING TOGETHERnP"
      ++ "USHING UPWARDnOPPRESSIONnTHE WELLnREVOLUTIONnTHE CAULDRONrAROUSING THUNDERrKEEPING S"
      ++ "TILL MOUNTAINnDEVELOPMENTnTHE MARRYING MAIDENnABUNDANCEnTHE WANDERERrGENTLE WINDrJOY"
      ++ "OUS LAKEnDISPERSIONnLIMITATIONnINNER TRUTHnSMALL PREPONDERANCEnAFTER COMPLETIONnBEFO"
      ++ "RE COMPLETION"),
    (0xa000, "aYI SYLLABLE ITnXnnPnEToXooPmATnXnnPmUOXooPmOTnXnnPmEXnmWUmBIToXooPoETpXppPnAToXooPn"
      ++ "UOXppPnOToXooPnEXooPnUToXooPoRXpnYToXooPoRXpmPIToXooPoEXppPnAT"),
    (0xa040, "aYI SYLLABLE PAXooPnUOXppPnOToXooPnUToXooPoRXpnYToXooPoRXpmBBITpXppPpETqXqqPoATpXppP"
      ++ "oUOXqqPoOTpXppPoEXppPoUTpXppPpRXqoYTpXppPmNBITpXppPpEXqqPoATpXp"),
    (0xa080, "aYI SYLLABLE NBAPoOTpXppPoUTpXppPpRXqoYTpXppPpRXqmHMITpXppPpEXqqPoATpXppPoUOXqqPoOTp"
      ++ "XppPoUTpXppPpRXqoYXppPpRXqmMIToXooPoEXppPnAToXooPnUOTpXppPnOToXo"),
    (0xa0c0, "aYI SYLLABLE MOPnEXonUToXooPoRXpnYToXooPmFIToXooPnAToXooPnOXooPnUToXooPoRXpnYToXooPm"
      ++ "VIToXooPoETpXppPnAToXooPnOToXooPnEXoPnUToXooPoRXpnYToXooPoRXp"),
    (0xa100, "aYI SYLLABLE DIToXooPoEXppPnAToXooPnUOXpnOToXooPnEXooPnUToXooPoRXpmTIToXooPoEXppPnAT"
      ++ "oXooPnUOTpXppPnOToXooPnEXooPnUToXooPoRXpmDDITpXppPpEXqqPoATpXp"),
    (0xa140, "aYI SYLLABLE DDAPoUOXqqPoOTpXppPoEXppPoUTpXppPpRXqmNDITpXppPpEXqoATpXppPoOTpXppPoEXp"
      ++ "pPoUTpXppPpRXqmHNITpXppPpETqXqqPoATpXppPoUOXqoOTpXpPoEXppPoUTmNIToXo"),
    (0xa180, "aYI SYLLABLE NIPoEXppPnAXooPnUOXppPnOToXooPnEXooPnUToXooPoRXpmHLITpXppPpEXqqPoATpXpp"
      ++ "PoUOXqqPoOXppPoEXppPoUTpXppPpRXqoYTpXppPpRXqmLIToXooPoETpXppPnAT"),
    (0xa1c0, "aYI SYLLABLE LAXooPnUOTpXppPnOToXooPnEXooPnUToXooPoRXpnYToXooPoRXpmGIToXooPoETpXppPn"
      ++ "AToXooPnUOTpXppPnOToXooPnEToXooPnUToXooPoRXpmKIToXooPoEXppPnAT"),
    (0xa200, "aYI SYLLABLE KAXooPnUOXppPnOToXooPnEToXooPnUToXooPoRXpmGGITpXppEXqqPoATpXppPoUOTqXqq"
      ++ "PoOTpXppPoETpXppPoUTpXppPpRXqmMGIEXqoATpXppPoUOXqqPoOTpXppPoEXppP"),
    (0xa240, "aYI SYLLABLE MGUTpXppPpRXqmHXITpXppPpETqXqqPoATpXppPoUOTqXqqPoOTpXppPoEXppPmNGIEXqqP"
      ++ "oATpXppPoUOTqXqoOTpXppPoEXppPmHIToEXpnAToXooPnUOTpXppPnOToXooPnEXooP"),
    (0xa280, "aYI SYLLABLE WAToXooPnUOXppPnOXooPnEXooPmZIToXooPoEXppPnAToXooPnUOXppPnOToXooPnEXooP"
      ++ "nUToXooPoRXpnYToXooPoRXpmCIToXooPoETpXppPnAToXooPnUOXppPnOToXo"),
    (0xa2c0, "aYI SYLLABLE COPnEXooPnUToXooPoRXpnYToXooPoRXpmZZITpXppPpETqXqqPoATpXppPoOXppPoEXppP"
      ++ "oUXppPpRXqoYTpXppPpRXqmNZITpXppPpEXqqPoATpXppPoUOXqoOXpPoEXpoUXp"),
    (0xa300, "aYI SYLLABLE NZUPpRXqoYTpXppPpRXqmSIToXooPoEXppPnAToXooPnUOXppPnOToXooPnEXooPnUToXoo"
      ++ "PoRXpnYToXooPoRXpnSITpXppPpEXqqPoATpXppPoOTpXppPoEXppPoUTpXppP"),
    (0xa340, "aYI SYLLABLE SSYTpXppPpRXqmZHATpXppPoUOXqqPoOTpXppPoETpXppPoUTpXppPpRXqoYTpXppPpRXqm"
      ++ "CHATpXppPoUOTqXqqPoOTpXppPoETpXppPoUXppPpRXqoYTpXppPpRXqmRRAXpoUOXq"),
    (0xa380, "aYI SYLLABLE RROTpXppPoETpXppPoUTpXppPpRXqoYTpXppPpRXqmNRATpXppPoOXppPoETpXppPoUTpXp"
      ++ "pPpRXqoYTpXppPpRXqmSHATpXppPoUOXqqPoOTpXppPoETpXppPoUTpXppPpRXq"),
    (0xa3c0, "aYI SYLLABLE SHYTpXppPpRXqmRAToXooPnUOXppPnOToXooPnEXooPnUToXooPoRXpnYToXooPoRXpmJIT"
      ++ "oXooPoETpXppPnUOTpXppPnOToXooPnUToXooPoRXpnYToXooPoRXpmQIToXooP"),
    (0xa400, "aYI SYLLABLE QIETpXppPnUOTpXppPnOToXooPnUToXooPoRXpnYToXooPoRXpmJJITpXppPpETqXqqPoUO"
      ++ "XqqPoOTpXppPoUTpXppPpRXqoYTpXppPmNJITpXppPpETqXqqPoUOXqoOTpXppPoUX"),
    (0xa440, "aYI SYLLABLE NJUpPpRXqoYTpXppPpRXqnYITpXppPpETqXqqPoUOXqqPoOTpXppPoUTpXppPmXIToXooPo"
      ++ "ETpXppPnUOXpnOToXooPnYToXooPoRXpmYIToXooPoETpXppPnUOTpXppPnOToXo"),
    (0xa480, "aYI SYLLABLE YOPnUToXooPoRXpnYToXooPoRXp"),
    (0xa490, "aYI RADICAL QOTlLIlKITlNYIPlCYPlSSIlGGOPmEPlMIlHXITlLYRlBBUTlMOPlYOlPUTlHXUOlTATlGAl"
      ++ "ZUPlCYTlDDURlBURlGGUOlNYOPlTUlOPlJJUTlZOTlPYTlHMOlYITlVURlSHYlVEPlZAlJOlNZUPlJJYlGOT"
      ++ "lJJIElWOlDUlSHURlLIElCYmUOPmIPlHXOPlSHATlZURlSHOPlCHElZZIETlNBIElKE"),
    (0xa4d0, "aLISU LETTER BAmPAnHAmDAmTAnHAmGAmKAnHAmJAmCAnHAmDZAmTSAoHAmMAmNAmLAmSAmZHAnAmNGAmHA"
      ++ "mXAmHHAmFAmWAmSHAmYAmGHAmAnEmEnUmImOmUnEnHmOEmTONE MYA TIrNA POrMYA CYAvBOvNAvJEUfPU"
      ++ "NCTUATION COMMArFULL STOPaVAI SYLLABLE EEpNnHEEnWEEqNnPEEnBHEEoEEnMBEEnKPEEnMGBEEnGB"
      ++ "EEnFEEnVEEnTEEoHEE"),
    (0xa510, "aVAI SYLLABLE DHEEpHEEnLEEnREEnDEEnNDEEnSEEoHEEnZEEoHEEnCEEnJEEnNJEEnYEEnKEEnNGGEEnG"
      ++ "EEnMEEnNEEoYEEnIoNnHIpNnWIpNnPInBHIoInMBInKPInMGBInGBInFInVInTIoHInDHIpHInLInRInDInN"
      ++ "DInSIoHInZIoHInCInJInNJInYInKInNGGInGInMInNIoYInAoNnNGANnHApNnWApN"),
    (0xa550, "aVAI SYLLABLE PAnBHAoAnMBAnKPAqNnMGBAnGBAnFAnVAnTAoHAnDHApHAnLAnRAnDAnNDAnSAoHAnZAoH"
      ++ "AnCAnJAnNJAnYAnKApNnNGGAnGAnMAnNAoYAnOOpNnHOOnWOOqNnPOOnBHOOoOOnMBOOnKPOOnMGBOOnGBOO"
      ++ "nFOOnVOOnTOOoHOOnDHOOpHOOnLOOnROOnDOOnNDOOnSOOoHOOnZOOoHOOnCOOnJOOnNJOOnYOOnKOO"),
    (0xa590, "aVAI SYLLABLE NGGOOnGOOnMOOnNOOoYOOnUoNnHUpNnWUpNnPUnBHUoUnMBUnKPUnMGBUnGBUnFUnVUnTU"
      ++ "oHUnDHUpHUnLUnRUnDUnNDUnSUoHUnZUoHUnCUnJUnNJUnYUnKUnNGGUnGUnMUnNUoYUnOoNnNGONnHOpNnW"
      ++ "OpNnPOnBHOoOnMBOnKPOnMGBOnGBOqNnFOnVOnTOoHOnDHOpHOnLO"),
    (0xa5d0, "aVAI SYLLABLE ROnDOnNDOnSOoHOnZOoHOnCOnJOnNJOnYOnKOnNGGOnGOnMOnNOoYOnEoNnNGENnHEpNnW"
      ++ "EpNnPEnBHEoEnMBEnKPEqNnMGBEnGBEqNnFEnVEnTEoHEnDHEpHEnLEnREnDEnNDEnSEoHEnZEoHEnCEnJEn"
      ++ "NJEnYEnKEnNGGErNnGEpNnMEnNEoYEoGnLENGTHENEReCOMMAeFULL STOPeQUESTION MARK"),
    (0xa610, "aVAI SYLLABLE NDOLE FAtKAtSOOgMBOL FEENGlKEENGlTINGlNIIlBANGlFAAlTAAlDANGmOONGlKUNGl"
      ++ "TONGlDO-OlJONGeDIGIT ZEROkONEkTWOlHREEkFOURlIVEkSIXlEVENkEIGHTkNINEeSYLLABLE NDOLE M"
      ++ "AtDO"),
    (0xa640, "aCYRILLIC CAPITAL LETTER ZEMLYAjSMALL LETTER ZEMLYAjCAPITAL LETTER DZELOjSMALL LETTE"
      ++ "R DZELOjCAPITAL LETTER REVERSED DZEjSMALL LETTER REVERSED DZEjCAPITAL LETTER IOTAjSM"
      ++ "ALL LETTER IOTAjCAPITAL LETTER DJERVjSMALL LETTER DJERVjCAPITAL LETTER MONOGRAPH UKj"
      ++ "SMALL LETTER MONOGRAPH UKjCAPITAL LETTER BROAD OMEGAjSMALL LETTER BROAD OMEGAjCAPITA"
      ++ "L LETTER NEUTRAL YERjSMALL LETTER NEUTRAL YERjCAPITAL LETTER YERU WITH BACK YERjSMAL"
      ++ "L LETTER YERU WITH BACK YERjCAPITAL LETTER IOTIFIED YATjSMALL LETTER IOTIFIED YATjCA"
      ++ "PITAL LETTER REVERSED YUjSMALL LETTER REVERSED YUjCAPITAL LETTER IOTIFIED AjSMALL LE"
      ++ "TTER IOTIFIED AjCAPITAL LETTER CLOSED LITTLE YUSjSMALL LETTER CLOSED LITTLE YUSjCAPI"
      ++ "TAL LETTER BLENDED YUSjSMALL LETTER BLENDED YUSjCAPITAL LETTER IOTIFIED CLOSED LITTL"
      ++ "E YUSjSMALL LETTER IOTIFIED CLOSED LITTLE YUSjCAPITAL LETTER YNjSMALL LETTER YNjCAPI"
      ++ "TAL LETTER REVERSED TSEjSMALL LETTER REVERSED TSEjCAPITAL LETTER SOFT DEjSMALL LETTE"
      ++ "R SOFT DEjCAPITAL LETTER SOFT ELjSMALL LETTER SOFT ELjCAPITAL LETTER SOFT EMjSMALL L"
      ++ "ETTER SOFT EMjCAPITAL LETTER MONOCULAR OjSMALL LETTER MONOCULAR OjCAPITAL LETTER BIN"
      ++ "OCULAR OjSMALL LETTER BINOCULAR OjCAPITAL LETTER DOUBLE MONOCULAR OjSMALL LETTER DOU"
      ++ "BLE MONOCULAR OjLETTER MULTIOCULAR ObOMBINING CYRILLIC VZMETtTEN MILLIONS SIGNtHUNDR"
      ++ "ED MILLIONS SIGNtTHOUSAND MILLIONS SIGNaSLAVONIC ASTERISKaCOMBINING CYRILLIC LETTER "
      ++ "UKRAINIAN IEαIαYIαUαHARD SIGNαYERUαSOFT SIGNαOMEGAtKAVYKAtPAYEROKbYRILLIC KAVYKAjPAY"
      ++ "EROK"),
    (0xa680, "aCYRILLIC CAPITAL LETTER DWEjSMALL LETTER DWEjCAPITAL LETTER DZWEjSMALL LETTER DZWEj"
      ++ "CAPITAL LETTER ZHWEjSMALL LETTER ZHWEjCAPITAL LETTER CCHEjSMALL LETTER CCHEjCAPITAL "
      ++ "LETTER DZZEjSMALL LETTER DZZEjCAPITAL LETTER TE WITH MIDDLE HOOKjSMALL LETTER TE WIT"
      ++ "H MIDDLE HOOKjCAPITAL LETTER TWEjSMALL LETTER TWEjCAPITAL LETTER TSWEjSMALL LETTER T"
      ++ "SWEjCAPITAL LETTER TSSEjSMALL LETTER TSSEjCAPITAL LETTER TCHEjSMALL LETTER TCHEjCAPI"
      ++ "TAL LETTER HWEjSMALL LETTER HWEjCAPITAL LETTER SHWEjSMALL LETTER SHWEjCAPITAL LETTER"
      ++ " DOUBLE OjSMALL LETTER DOUBLE OjCAPITAL LETTER CROSSED OjSMALL LETTER CROSSED OaMODI"
      ++ "FIER LETTER CYRILLIC HARD SIGNzSOFT SIGNaCOMBINING CYRILLIC LETTER EFαIOTIFIED EaBAM"
      ++ "UM LETTER AnKAnUnKUnEEnREEnTAEnOnNYInInLAnPAnRIIpEEnLEEEEnMEEEEnTAAnNDAAoJAEMnMnSUUn"
      ++ "MUnSHIIoIoHEUXoEUXnKYEEoETnNUAEpoJUAEnYOQ"),
    (0xa6c0, "aBAMUM LETTER SHUnYUQoAnNSHAnKEUXnPEUXnNJEEoTEEnPUEnWUEnPEEnFEEnRUnLUnMInNInREUXoAEn"
      ++ "KENnNGKWAENpGApAnSHOnPUAEnFUoOMnWAnNAnLInPInLOQnKOnMBENnRENnMENoAnTInKInMOoBAAnTETnK"
      ++ "PAnTENnNTUUnSAMBAnFAAMAEnKOVUUpGHOMgCOMBINING MARK KOQNDONvTUKWENTISgNJAEMLIgFULL ST"
      ++ "OPgCOLONiMMAgSEMICOLONgQUESTION MARK"),
    (0xa700, "aMODIFIER LETTER CHINESE TONE YIN PINGεANG PINGεIN SHANGεANG SHANGεIN QUεANG QUεIN R"
      ++ "UεANG RUqEXTRA-HIGH DOTTED TONE BARqHIGH DOTTED TONE BARqMID DOTTED TONE BARqLOW DOT"
      ++ "TED TONE BARqEXTRA-LOW DOTTED TONE BARwHIGH DOTTED LEFT-STEM TONE BARqHIGH DOTTED LE"
      ++ "FT-STEM TONE BARqMID DOTTED LEFT-STEM TONE BARqLOW DOTTED LEFT-STEM TONE BARqEXTRA-L"
      ++ "OW DOTTED LEFT-STEM TONE BARwHIGH LEFT-STEM TONE BARqHIGH LEFT-STEM TONE BARqMID LEF"
      ++ "T-STEM TONE BARqLOW LEFT-STEM TONE BARqEXTRA-LOW LEFT-STEM TONE BARqDOT VERTICAL BAR"
      ++ "uSLASHuHORIZONTAL BARqLOWER RIGHT CORNER ANGLEqRAISED UP ARROWxDOWN ARROWxEXCLAMATIO"
      ++ "N MARKxINVERTED EXCLAMATION MARKqLOW INVERTED EXCLAMATION MARKqSTRESS AND HIGH TONEβ"
      ++ "LOW TONEaLATIN CAPITAL LETTER EGYPTOLOGICAL ALEFgSMALL LETTER EGYPTOLOGICAL ALEFgCAP"
      ++ "ITAL LETTER EGYPTOLOGICAL AINgSMALL LETTER EGYPTOLOGICAL AINgCAPITAL LETTER HENGgSMA"
      ++ "LL LETTER HENGgCAPITAL LETTER TZgSMALL LETTER TZgCAPITAL LETTER TRESILLOgSMALL LETTE"
      ++ "R TRESILLOgCAPITAL LETTER CUATRILLOgSMALL LETTER CUATRILLOgCAPITAL LETTER CUATRILLO "
      ++ "WITH COMMAgSMALL LETTER CUATRILLO WITH COMMAgLETTER SMALL CAPITAL FβSgCAPITAL LETTER"
      ++ " AAgSMALL LETTER AAgCAPITAL LETTER AOgSMALL LETTER AOgCAPITAL LETTER AUgSMALL LETTER"
      ++ " AUgCAPITAL LETTER AVgSMALL LETTER AVgCAPITAL LETTER AV WITH HORIZONTAL BARgSMALL LE"
      ++ "TTER AV WITH HORIZONTAL BARgCAPITAL LETTER AYgSMALL LETTER AYgCAPITAL LETTER REVERSE"
      ++ "D C WITH DOTgSMALL LETTER REVERSED C WITH DOT"),
    (0xa740, "aLATIN CAPITAL LETTER K WITH STROKEgSMALL LETTER K WITH STROKEgCAPITAL LETTER K WITH"
      ++ " DIAGONAL STROKEgSMALL LETTER K WITH DIAGONAL STROKEgCAPITAL LETTER K WITH STROKE AN"
      ++ "D DIAGONAL STROKEgSMALL LETTER K WITH STROKE AND DIAGONAL STROKEgCAPITAL LETTER BROK"
      ++ "EN LgSMALL LETTER BROKEN LgCAPITAL LETTER L WITH HIGH STROKEgSMALL LETTER L WITH HIG"
      ++ "H STROKEgCAPITAL LETTER O WITH LONG STROKE OVERLAYgSMALL LETTER O WITH LONG STROKE O"
      ++ "VERLAYgCAPITAL LETTER O WITH LOOPgSMALL LETTER O WITH LOOPgCAPITAL LETTER OOgSMALL L"
      ++ "ETTER OOgCAPITAL LETTER P WITH STROKE THROUGH DESCENDERgSMALL LETTER P WITH STROKE T"
      ++ "HROUGH DESCENDERgCAPITAL LETTER P WITH FLOURISHgSMALL LETTER P WITH FLOURISHgCAPITAL"
      ++ " LETTER P WITH SQUIRREL TAILgSMALL LETTER P WITH SQUIRREL TAILgCAPITAL LETTER Q WITH"
      ++ " STROKE THROUGH DESCENDERgSMALL LETTER Q WITH STROKE THROUGH DESCENDERgCAPITAL LETTE"
      ++ "R Q WITH DIAGONAL STROKEgSMALL LETTER Q WITH DIAGONAL STROKEgCAPITAL LETTER R ROTUND"
      ++ "AgSMALL LETTER R ROTUNDAgCAPITAL LETTER RUM ROTUNDAgSMALL LETTER RUM ROTUNDAgCAPITAL"
      ++ " LETTER V WITH DIAGONAL STROKEgSMALL LETTER V WITH DIAGONAL STROKEgCAPITAL LETTER VY"
      ++ "gSMALL LETTER VYgCAPITAL LETTER VISIGOTHIC ZgSMALL LETTER VISIGOTHIC ZgCAPITAL LETTE"
      ++ "R THORN WITH STROKEgSMALL LETTER THORN WITH STROKEgCAPITAL LETTER THORN WITH STROKE "
      ++ "THROUGH DESCENDERgSMALL LETTER THORN WITH STROKE THROUGH DESCENDERgCAPITAL LETTER VE"
      ++ "NDgSMALL LETTER VENDgCAPITAL LETTER ETgSMALL LETTER ETgCAPITAL LETTER ISgSMALL LETTE"
      ++ "R ISgCAPITAL LETTER CONgSMALL LETTER CONaMODIFIER LETTER USaLATIN SMALL LETTER DUMtL"
      ++ "UMtMUMtNUMtRUMgLETTER SMALL CAPITAL RUMgSMALL LETTER TUMtUMgCAPITAL LETTER INSULAR D"
      ++ "gSMALL LETTER INSULAR DgCAPITAL LETTER INSULAR FgSMALL LETTER INSULAR FgCAPITAL LETT"
      ++ "ER INSULAR GvTURNED INSULAR GgSMALL LETTER TURNED INSULAR G"),
    (0xa780, "aLATIN CAPITAL LETTER TURNED LgSMALL LETTER TURNED LgCAPITAL LETTER INSULAR RgSMALL "
      ++ "LETTER INSULAR RgCAPITAL LETTER INSULAR SgSMALL LETTER INSULAR SgCAPITAL LETTER INSU"
      ++ "LAR TgSMALL LETTER INSULAR TaMODIFIER LETTER LOW CIRCUMFLEX ACCENTqCOLONqSHORT EQUAL"
      ++ "S SIGNaLATIN CAPITAL LETTER SALTILLOgSMALL LETTER SALTILLOgCAPITAL LETTER TURNED HgS"
      ++ "MALL LETTER L WITH RETROFLEX HOOK AND BELTgLETTER SINOLOGICAL DOTgCAPITAL LETTER N W"
      ++ "ITH DESCENDERgSMALL LETTER N WITH DESCENDERgCAPITAL LETTER C WITH BARgSMALL LETTER C"
      ++ " WITH BARαPALATAL HOOKtH WITH PALATAL HOOKgCAPITAL LETTER B WITH FLOURISHgSMALL LETT"
      ++ "ER B WITH FLOURISHgCAPITAL LETTER F WITH STROKEgSMALL LETTER F WITH STROKEgCAPITAL L"
      ++ "ETTER VOLAPUK AEgSMALL LETTER VOLAPUK AEgCAPITAL LETTER VOLAPUK OEgSMALL LETTER VOLA"
      ++ "PUK OEgCAPITAL LETTER VOLAPUK UEgSMALL LETTER VOLAPUK UEgCAPITAL LETTER G WITH OBLIQ"
      ++ "UE STROKEgSMALL LETTER G WITH OBLIQUE STROKEgCAPITAL LETTER K WITH OBLIQUE STROKEgSM"
      ++ "ALL LETTER K WITH OBLIQUE STROKEgCAPITAL LETTER N WITH OBLIQUE STROKEgSMALL LETTER N"
      ++ " WITH OBLIQUE STROKEgCAPITAL LETTER R WITH OBLIQUE STROKEgSMALL LETTER R WITH OBLIQU"
      ++ "E STROKEgCAPITAL LETTER S WITH OBLIQUE STROKEgSMALL LETTER S WITH OBLIQUE STROKEgCAP"
      ++ "ITAL LETTER H WITH HOOKvREVERSED OPEN EvSCRIPT GvL WITH BELTvSMALL CAPITAL IgLETTER "
      ++ "SMALL CAPITAL QgCAPITAL LETTER TURNED KγTvJ WITH CROSSED-TAILvCHIvBETAgSMALL LETTER "
      ++ "BETAgCAPITAL LETTER OMEGAgSMALL LETTER OMEGAgCAPITAL LETTER U WITH STROKEgSMALL LETT"
      ++ "ER U WITH STROKEgCAPITAL LETTER GLOTTAL AgSMALL LETTER GLOTTAL AgCAPITAL LETTER GLOT"
      ++ "TAL IgSMALL LETTER GLOTTAL IgCAPITAL LETTER GLOTTAL UgSMALL LETTER GLOTTAL U"),
    (0xa7c0, "aLATIN CAPITAL LETTER OLD POLISH OgSMALL LETTER OLD POLISH OgCAPITAL LETTER ANGLICAN"
      ++ "A WgSMALL LETTER ANGLICANA WgCAPITAL LETTER C WITH PALATAL HOOKvS WITH HOOKvZ WITH P"
      ++ "ALATAL HOOKvD WITH SHORT STROKE OVERLAYgSMALL LETTER D WITH SHORT STROKE OVERLAYgCAP"
      ++ "ITAL LETTER S WITH SHORT STROKE OVERLAYgSMALL LETTER S WITH SHORT STROKE OVERLAY"),
    (0xa7d0, "aLATIN CAPITAL LETTER CLOSED INSULAR GgSMALL LETTER CLOSED INSULAR G"),
    (0xa7d3, "aLATIN SMALL LETTER DOUBLE THORN"),
    (0xa7d5, "aLATIN SMALL LETTER DOUBLE WYNNgCAPITAL LETTER MIDDLE SCOTS SgSMALL LETTER MIDDLE SC"
      ++ "OTS SgCAPITAL LETTER SIGMOID SgSMALL LETTER SIGMOID S"),
    (0xa7f2, "aMODIFIER LETTER CAPITAL CyFyQaLATIN CAPITAL LETTER REVERSED HALF HgSMALL LETTER REV"
      ++ "ERSED HALF HgEPIGRAPHIC LETTER SIDEWAYS IaMODIFIER LETTER CAPITAL H WITH STROKEqSMAL"
      ++ "L LIGATURE OEaLATIN LETTER SMALL CAPITAL TURNED MgEPIGRAPHIC LETTER REVERSED FθPyINV"
      ++ "ERTED Mz LONGAyARCHAIC MaSYLOTI NAGRI LETTER AuInSIGN DVISVARAnLETTER UuEuOnSIGN HAS"
      ++ "ANTAnLETTER KOvHOuGOvHOnSIGN ANUSVARAnLETTER COvHOuJOvHOuTTOwHOuDDOwHOuTOvHOuDOvHOuN"
      ++ "OuPOvHOuBOvHOuMOuROuLOuRROuSOuHOnVOWEL SIGN AyIyUyEyOOnPOETRY MARK-1z2z3z4nSIGN ALTE"
      ++ "RNATE HASANTA"),
    (0xa830, "aNORTH INDIC FRACTION ONE QUARTERzHALFvTHREE QUARTERSvONE SIXTEENTHzEIGHTHvTHREE SIX"
      ++ "TEENTHSmQUARTER MARKmPLACEHOLDER MARKmRUPEE MARKmQUANTITY MARK"),
    (0xa840, "aPHAGS-PA LETTER KArHAqGAqNGAqCArHAqJAqNYAqTArHAqDAqNAqPArHAqBAqMAqTSAsHAqDZAqWAqZHA"
      ++ "rAqSMALL AqYAqRAqLAqSHArAqHAqAqIqUqEqOqQAqXAqFAqGGAqEEjSUBJOINED LETTER WAαYAjLETTER"
      ++ " TTAsHAqDDAqNNAqALTERNATE YAqVOICELESS SHAvD HAqASPIRATED FAjSUBJOINED LETTER RAlPER"
      ++ "FIXED LETTER RAjLETTER CANDRABINDUjSINGLE HEAD MARKjDOUBLE HEAD MARKjMARK SHADoDOUBL"
      ++ "E SHAD"),
    (0xa880, "aSAURASHTRA SIGN ANUSVARAqVISARGAlLETTER AtAsItIsUtUsVOCALIC RβRαLβLsEtEsAIsOtOsAUsK"
      ++ "AtHAsGAtHAsNGAsCAtHAsJAtHAsNYAsTTAuHAsDDAuHAsNNAsTAtHAsDAtHAsNAsPAtHAsBAtHAsMAsYAsRA"
      ++ "sLAsVAsSHAtSAtAsHAsLLAlCONSONANT SIGN HAARUlVOWEL SIGN AAwIxIwUxUwVOCALIC RζRεLζLwEx"
      ++ "E"),
    (0xa8c0, "aSAURASHTRA VOWEL SIGN AIwOxOwAUlSIGN VIRAMAqCANDRABINDU"),
    (0xa8ce, "aSAURASHTRA DANDAmOUBLE DANDAmIGIT ZEROrONErTWOsHREErFOURsIVErSIXsEVENrEIGHTrNINE"),
    (0xa8e0, "aCOMBINING DEVANAGARI DIGIT ZEROβONEβTWOγHREEβFOURγIVEβSIXγEVENβEIGHTβNINEvLETTER Aγ"
      ++ "UγKAγNAγPAγRAγVIvSIGN AVAGRAHAaDEVANAGARI SIGN SPACING CANDRABINDUqCANDRABINDU VIRAM"
      ++ "AqDOUBLE CANDRABINDU VIRAMAqCANDRABINDU TWOδHREEγAVAGRAHAqPUSHPIKAlGAP FILLERlCARETl"
      ++ "HEADSTROKElSIGN SIDDHAMlJAIN OMlLETTER AYlVOWEL SIGN AYaKAYAH LI DIGIT ZEROpONEpTWOq"
      ++ "HREEpFOURqIVEpSIXqEVENpEIGHTpNINEjLETTER KArHAqGAqNGAqSArHAqZAqNYAqTAqHTAqNAqPArHAqM"
      ++ "AqDAqBAqRAqYAqLAqWAqTHAqHA"),
    (0xa920, "aKAYAH LI LETTER VAqCAqAqOEqIqOOjVOWEL UEpEpUpEEpOjTONE PLOPHUoCALYAt PLOPHUjSIGN CW"
      ++ "IoSHYAaREJANG LETTER KAoGAoNGAoTAoDAoNAoPAoBAoMAoCAoJAoNYAoSAoRAoLAoYAoWAoHAoMBAoNGG"
      ++ "ApDApYJAoAhVOWEL SIGN IsUsEsAIsOsAUsEUtAhCONSONANT SIGN NGxwRwHhVIRAMA"),
    (0xa95f, "aREJANG SECTION MARKaHANGUL CHOSEONG TIKEUT-MIEUMxPIEUPxSIOSxCIEUCqRIEUL-KIYEOKwSSAN"
      ++ "GKIYEOKwTIKEUTwSSANGTIKEUTwMIEUMwPIEUPwSSANGPIEUPwKAPYEOUNPIEUPwSIOSwCIEUCwKHIEUKHqM"
      ++ "IEUM-KIYEOKwTIKEUTwSIOSqPIEUP-SIOS-THIEUTHwKHIEUKHwHIEUHqSSANGSIOS-PIEUPqIEUNG-RIEUL"
      ++ "wHIEUHqSSANGCIEUC-HIEUHvTHIEUTHqPHIEUPH-HIEUHqHIEUH-SIOSqSSANGYEORINHIEUH"),
    (0xa980, "aJAVANESE SIGN PANYANGGAoCECAKoLAYARoWIGNYANjLETTER AqI KAWIrrIqUqPA CEREKqNGA LELET"
      ++ "z RASWADIqEqAIqOqKAs SASAKtMURDAqGAs MURDAqNGAqCAs MURDAqJAqNYA MURDAqJA MAHAPRANAqN"
      ++ "YAqTTAt MAHAPRANAqDDAt MAHAPRANAqNA MURDAqTAs MURDAqDAs MAHAPRANAqNAqPAs MURDAqBAs M"
      ++ "URDAqMAqYAqRAs AGUNGqLAqWAqSA MURDAuAHAPRANAsqHAjSIGN CECAK TELUjVOWEL SIGN TARUNGvO"
      ++ "LONGuWULUy MELIKuSUKUy MENDUTuTALINGuDIRGA MUREuPEPETjCONSONANT SIGN KERETyPENGKALyC"
      ++ "AKRA"),
    (0xa9c0, "aJAVANESE PANGKONjLEFT RERENGGANjRIGHT RERENGGANjPADA ANDAPoMADYAoLUHURoWINDUoPANGKA"
      ++ "ToLINGSApUNGSIoADEGs ADEGoPISELEHjTURNED PADA PISELEH"),
    (0xa9cf, "aJAVANESE PANGRANGKEPjDIGIT ZEROpONEpTWOqHREEpFOURqIVEpSIXqEVENpEIGHTpNINE"),
    (0xa9de, "aJAVANESE PADA TIRTA TUMETESoISEN-ISENaMYANMAR LETTER SHAN GHAuCHAuJHAuNNAuBHAiSIGN "
      ++ "SHAN SAWiMODIFIER LETTER SHAN REDUPLICATIONiLETTER TAI LAING NYAzFAzGAαHAzJAαHAzDDAβ"
      ++ "HAzNNAiTAI LAING DIGIT ZEROyONEyTWOzHREEyFOURzIVEySIXzEVENyEIGHTyNINEiLETTER TAI LAI"
      ++ "NG LLAzDAαHAzBAαHA"),
    (0xaa00, "aCHAM LETTER AmImUmEmAImOmKAnHAmGAnHAmNGUEoAmCHAoHAmJAnHAmNHUEoAoJAmTAnHAmDAnHAmNUEn"
      ++ "AmDDAmPAnPAnHAmBAnHAmMUEnAmBBAmYAmRAmLAmVAmSSAnAmHAfVOWEL SIGN AAqIrIqEIqUqOErqAIrUq"
      ++ "UEfCONSONANT SIGN YAuRAuLAuWA"),
    (0xaa40, "aCHAM LETTER FINAL KsGsNGfCONSONANT SIGN FINAL NGfLETTER FINAL CHsTsNsPsYsRsLsSSfCON"
      ++ "SONANT SIGN FINAL MαH"),
    (0xaa50, "aCHAM DIGIT ZEROlONElTWOmHREElFOURmIVElSIXmEVENlEIGHTlNINE"),
    (0xaa5c, "aCHAM PUNCTUATION SPIRALrDANDAsOUBLE DANDArTRIPLE DANDAaMYANMAR LETTER KHAMTI GAwCAx"
      ++ "HAwJAxHAwNYAwTTAyHAwDDAyHAxHAwNAwSAwHAxHAwFAiMODIFIER LETTER KHAMTI REDUPLICATIONiLE"
      ++ "TTER KHAMTI XAwZAwRAjOGOGRAM KHAMTI OAYyQNyHMiSYMBOL AITON EXCLAMATIONvONEvTWOiLETTE"
      ++ "R AITON RAiSIGN PAO KAREN TONEnTAI LAING TONE-2γ5iLETTER SHWE PALAUNG CHAγSHAaTAI VI"
      ++ "ET LETTER LOW KOqHIGH KOqLOW KHOqHIGH KHOqLOW KHHOqHIGH KHHOqLOW GOqHIGH GOqLOW NGOq"
      ++ "HIGH NGOqLOW COqHIGH COqLOW CHOqHIGH CHOqLOW SOqHIGH SOqLOW NYOqHIGH NYOqLOW DOqHIGH"
      ++ " DOqLOW TOqHIGH TOqLOW THOqHIGH THOqLOW NOqHIGH NOqLOW BOqHIGH BO"),
    (0xaa9c, "aTAI VIET LETTER LOW POqHIGH POqLOW PHOqHIGH PHOqLOW FOqHIGH FOqLOW MOqHIGH MOqLOW Y"
      ++ "OqHIGH YOqLOW ROqHIGH ROqLOW LOqHIGH LOqLOW VOqHIGH VOqLOW HOqHIGH HOqLOW OqHIGH OjM"
      ++ "AI KANGjVOWEL AApIpUEqpEpOjMAI KHITjVOWEL IApUEAqApAUEqYqNqMjTONE MAI EKsNUENGsTHOsS"
      ++ "ONG"),
    (0xaadb, "aTAI VIET SYMBOL KONqNUENGqSAMqHO HOIqKOI KOIaMEETEI MAYEK LETTER EuOuCHAuNYAuTTAwHA"
      ++ "uDDAwHAuNNAuSHAvSAnVOWEL SIGN IIyUUyAAIzUzAUnCHEIKHANnAHANG KHUDAMoNJInSYLLABLE REPE"
      ++ "TITION MARKnWORD REPETITION MARKnVOWEL SIGN VISARGAoIRAMA"),
    (0xab01, "aETHIOPIC SYLLABLE TTHUvIvAAvEEwvO"),
    (0xab09, "aETHIOPIC SYLLABLE DDHUvIvAAvEEwvO"),
    (0xab11, "aETHIOPIC SYLLABLE DZUuIuAAuEEvuO"),
    (0xab20, "aETHIOPIC SYLLABLE CCHHAwUwIwAAwEExwO"),
    (0xab28, "aETHIOPIC SYLLABLE BBAuUuIuAAuEEvuO"),
    (0xab30, "aLATIN SMALL LETTER BARRED ALPHAtA REVERSED-SCHWAtBLACKLETTER EuARRED EtE WITH FLOUR"
      ++ "ISHtLENIS FtSCRIPT G WITH CROSSED-TAILtL WITH INVERTED LAZY SαDOUBLE MIDDLE TILDEαMI"
      ++ "DDLE RINGtM WITH CROSSED-TAILtN WITH CROSSED-TAILtENG WITH CROSSED-TAILtBLACKLETTER "
      ++ "Oη WITH STROKEtOPEN O WITH STROKEtINVERTED OEtTURNED OE WITH STROKEιHORIZONTAL STROK"
      ++ "Eβ OPEN-Oι WITH STROKEtSTIRRUP RgLETTER SMALL CAPITAL R WITH RIGHT LEGgSMALL LETTER "
      ++ "R WITHOUT HANDLEtDOUBLE RtR WITH CROSSED-TAILtDOUBLE R WITH CROSSED-TAILtSCRIPT Rβ W"
      ++ "ITH RINGtBASELINE ESHtU WITH SHORT RIGHT LEGvBAR WITH SHORT RIGHT LEGuItTURNED UItU "
      ++ "WITH LEFT HOOKtCHIw WITH LOW RIGHT RINGηLEFT SERIFtX WITH LOW RIGHT RINGγNG LEFT LEG"
      ++ "ξ AND LOW RIGHT RINGοWITH SERIFtY WITH SHORT RIGHT LEGaMODIFIER BREVE WITH INVERTED "
      ++ "BREVEjLETTER SMALL HENGwL WITH INVERTED LAZY SδMIDDLE TILDEwU WITH LEFT HOOKaLATIN S"
      ++ "MALL LETTER SAKHA YATtIOTIFIED EtOPEN OEtUOtINVERTED ALPHAaGREEK LETTER SMALL CAPITA"
      ++ "L OMEGAaLATIN SMALL LETTER DZ DIGRAPH WITH RETROFLEX HOOKtTS DIGRAPH WITH RETROFLEX "
      ++ "HOOKuURNED R WITH MIDDLE TILDEaMODIFIER LETTER SMALL TURNED WqLEFT TACKqRIGHT TACK"),
    (0xab70, "aCHEROKEE SMALL LETTER AwEwIwOwUwVwGAwKAwGExIxOxUxVwHAxExIxOxUxVwLAxExIxOxUxVwMAxExI"
      ++ "xOxUwNAwHNAwNAHxExIxOxUxVwQUAyEyIyOyUyVwSAxxExIxOxUxVwDAwTAwDEwTEwDIwTIwDOxUxVxLAwTL"
      ++ "AyEyI"),
    (0xabb0, "aCHEROKEE SMALL LETTER TLOyUyVxSAyEyIyOyUyVwWAxExIxOxUxVwYAaMEETEI MAYEK LETTER KOKu"
      ++ "SAMuLAIuMITuPAuNAuCHILuTILuKHOUuNGOUuTHOUuWAIuYANGuHUKuUNuIuPHAMuATIYAuGOKuJHAMuRAIu"
      ++ "BAuJILuDILuGHOUuDHOUuBHAMuKOK LONSUMuLAI LONSUMuMIT LONSUMuPA LONSUMuNA LONSUMuTIL L"
      ++ "ONSUMuNGOU LONSUMuI LONSUMnVOWEL SIGN ONAPyINAPyANAPyYENAPySOUNAPyUNAPyCHEINAPyNUNGn"
      ++ "CHEIKHEInLUM IYEKnAPUN IYEK"),
    (0xabf0, "aMEETEI MAYEK DIGIT ZEROtONEtTWOuHREEtFOURuIVEtSIXuEVENtEIGHTtNINE"),
    (0xd7b0, "aHANGUL JUNGSEONG O-YEOtO-IrYO-AvEuEOrU-YEOtI-IrYU-AEuOrEU-AuEOvuOrI-YA-OvEuEOvtO-It"
      ++ "YOuUtIrARAEA-AxE"),
    (0xd7cb, "aHANGUL JONGSEONG NIEUN-RIEULxCHIEUCHrSSANGTIKEUTγ-PIEUPrTIKEUT-PIEUPySIOSγ-KIYEOKyC"
      ++ "IEUCzHIEUCHyTHIEUTHrRIEUL-SSANGKIYEOKxKIYEOK-HIEUHrSSANGRIEUL-KHIEUKHrRIEUL-MIEUM-HI"
      ++ "EUHxPIEUP-TIKEUTδPHIEUPHxYESIEUNGzORINHIEUH-HIEUHrKAPYEOUNRIEULrMIEUM-NIEUNxSSANGNIE"
      ++ "UNrSSANGMIEUMrMIEUM-PIEUP-SIOSxCIEUCrPIEUP-TIKEUTxRIEUL-PHIEUPHxMIEUMrSSANGPIEUPrPIE"
      ++ "UP-SIOS-TIKEUTxCIEUCyHIEUCHrSIOS-MIEUMwKAPYEOUNPIEUPsSANGSIOS-KIYEOKβTIKEUTsIOS-PANS"
      ++ "IOSwCIEUCxHIEUCHwTHIEUTHwHIEUHrPANSIOS-PIEUPzKAPYEOUNPIEUPrYESIEUNG-MIEUMαHIEUHrCIEU"
      ++ "C-PIEUPxSSANGPIEUPrSSANGCIEUCrPHIEUPH-SIOSzTHIEUTH"),
    (0xfb00, "aLATIN SMALL LIGATURE FFwIwLwFIxLvLONG S TvST"),
    (0xfb13, "aARMENIAN SMALL LIGATURE MEN NOWγECHγINIyVEW NOWyMEN XEH"),
    (0xfb1d, "aHEBREW LETTER YOD WITH HIRIQhPOINT JUDEO-SPANISH VARIKAhLIGATURE YIDDISH YOD YOD PA"
      ++ "TAHiETTER ALTERNATIVE AYINoWIDE ALEFtDALETtHEtKAFtLAMEDtFINAL MEMtRESHtTAVoALTERNATI"
      ++ "VE PLUS SIGNoSHIN WITH SHIN DOTzIN DOTyDAGESH AND SHIN DOTλIN DOToALEF WITH PATAHyQA"
      ++ "MATSyMAPIQoBET WITH DAGESHoGIMEL WITH DAGESHoDALET WITH DAGESHoHE WITH MAPIQoVAV WIT"
      ++ "H DAGESHoZAYIN WITH DAGESH"),
    (0xfb38, "aHEBREW LETTER TET WITH DAGESHoYOD WITH DAGESHoFINAL KAF WITH DAGESHoKAF WITH DAGESH"
      ++ "oLAMED WITH DAGESH"),
    (0xfb3e, "aHEBREW LETTER MEM WITH DAGESH"),
    (0xfb40, "aHEBREW LETTER NUN WITH DAGESHoSAMEKH WITH DAGESH"),
    (0xfb43, "aHEBREW LETTER FINAL PE WITH DAGESHoPE WITH DAGESH"),
    (0xfb46, "aHEBREW LETTER TSADI WITH DAGESHoQOF WITH DAGESHoRESH WITH DAGESHoSHIN WITH DAGESHoT"
      ++ "AV WITH DAGESHoVAV WITH HOLAMoBET WITH RAFEoKAF WITH RAFEoPE WITH RAFEiIGATURE ALEF "
      ++ "LAMEDaARABIC LETTER ALEF WASLA ISOLATED FORMzFINAL FORMoBEEH ISOLATED FORMtFINAL FOR"
      ++ "MtINITIAL FORMtMEDIAL FORMoPEH ISOLATED FORMsFINAL FORMsINITIAL FORMsMEDIAL FORMoBEH"
      ++ "EH ISOLATED FORMuFINAL FORMuINITIAL FORMuMEDIAL FORMoTTEHEH ISOLATED FORMvFINAL FORM"
      ++ "vINITIAL FORMvMEDIAL FORMpEHEH ISOLATED FORMuFINAL FORMuINITIAL FORMuMEDIAL FORMpTEH"
      ++ " ISOLATED FORMtFINAL FORMtINITIAL FORMtMEDIAL FORMoVEH ISOLATED FORMsFINAL FORMsINIT"
      ++ "IAL FORMsMEDIAL FORMoPEHEH ISOLATED FORMuFINAL FORMuINITIAL FORMuMEDIAL FORMoDYEH IS"
      ++ "OLATED FORMtFINAL FORMtINITIAL FORMtMEDIAL FORMoNYEH ISOLATED FORMtFINAL FORMtINITIA"
      ++ "L FORMtMEDIAL FORMoTCHEH ISOLATED FORMuFINAL FORMuINITIAL FORMuMEDIAL FORMtEH ISOLAT"
      ++ "ED FORMwFINAL FORMwINITIAL FORMwMEDIAL FORMoDDAHAL ISOLATED FORMvFINAL FORMpAHAL ISO"
      ++ "LATED FORMuFINAL FORM"),
    (0xfb86, "aARABIC LETTER DUL ISOLATED FORMsFINAL FORMpDAL ISOLATED FORMtFINAL FORMoJEH ISOLATE"
      ++ "D FORMsFINAL FORMoRREH ISOLATED FORMtFINAL FORMoKEHEH ISOLATED FORMuFINAL FORMuINITI"
      ++ "AL FORMuMEDIAL FORMoGAF ISOLATED FORMsFINAL FORMsINITIAL FORMsMEDIAL FORMpUEH ISOLAT"
      ++ "ED FORMtFINAL FORMtINITIAL FORMtMEDIAL FORMoNGOEH ISOLATED FORMuFINAL FORMuINITIAL F"
      ++ "ORMuMEDIAL FORMpOON GHUNNA ISOLATED FORMαFINAL FORMoRNOON ISOLATED FORMuFINAL FORMuI"
      ++ "NITIAL FORMuMEDIAL FORMoHEH WITH YEH ABOVE ISOLATED FORMθFINAL FORMsGOAL ISOLATED FO"
      ++ "RMxFINAL FORMxINITIAL FORMxMEDIAL FORMsDOACHASHMEE ISOLATED FORMεFINAL FORMεINITIAL "
      ++ "FORMεMEDIAL FORMoYEH BARREE ISOLATED FORMzFINAL FORMzWITH HAMZA ABOVE ISOLATED FORMρ"
      ++ "FINAL FORMhSYMBOL DOT ABOVEsBELOWoTWO DOTS ABOVExBELOWpHREE DOTS ABOVEzBELOWzPOINTIN"
      ++ "G DOWNWARDS ABOVEτBELOWoFOUR DOTS ABOVEyBELOWoDOUBLE VERTICAL BAR BELOWoTWO DOTS VER"
      ++ "TICALLY ABOVEιBELOWoRINGoSMALL TAH ABOVEyBELOWoWASLA ABOVE"),
    (0xfbd3, "aARABIC LETTER NG ISOLATED FORMrFINAL FORMrINITIAL FORMrMEDIAL FORMoU ISOLATED FORMq"
      ++ "FINAL FORMoOE ISOLATED FORMrFINAL FORMoYU ISOLATED FORMrFINAL FORMoU WITH HAMZA ABOV"
      ++ "E ISOLATED FORMoVE ISOLATED FORMrFINAL FORMoKIRGHIZ OE ISOLATED FORMzFINAL FORMwYU I"
      ++ "SOLATED FORMzFINAL FORMoE ISOLATED FORMqFINAL FORMqINITIAL FORMqMEDIAL FORMoUIGHUR K"
      ++ "AZAKH KIRGHIZ ALEF MAKSURA INITIAL FORMωMEDIAL FORMiIGATURE YEH WITH HAMZA ABOVE WIT"
      ++ "H ALEF ISOLATED FORMχFINAL FORMσE ISOLATED FORMυFINAL FORMρWAW ISOLATED FORMφFINAL F"
      ++ "ORMρU ISOLATED FORMτFINAL FORMρOE ISOLATED FORMυFINAL FORMρYU ISOLATED FORMυFINAL FO"
      ++ "RMρE ISOLATED FORMτFINAL FORMτINITIAL FORMqUIGHUR KIRGHIZ YEH WITH HAMZA ABOVE WITH "
      ++ "ALEF MAKSURA ISOLATED FORMωVE WITH ALEF MAKSURA FINAL FORMωVE WITH ALEF MAKSURA INIT"
      ++ "IAL FORMiETTER FARSI YEH ISOLATED FORMyFINAL FORMyINITIAL FORMyMEDIAL FORMiIGATURE Y"
      ++ "EH WITH HAMZA ABOVE WITH JEEM ISOLATED FORMρHAH ISOLATED FORMρMEEM ISOLATED FORMρALE"
      ++ "F MAKSURA ISOLATED FORMρYEH ISOLATED FORMqBEH WITH JEEM ISOLATED FORMzHAH ISOLATED F"
      ++ "ORMzKHAH ISOLATED FORMzMEEM ISOLATED FORMzALEF MAKSURA ISOLATED FORMzYEH ISOLATED FO"
      ++ "RMqTEH WITH JEEM ISOLATED FORMzHAH ISOLATED FORMzKHAH ISOLATED FORMzMEEM ISOLATED FO"
      ++ "RMzALEF MAKSURA ISOLATED FORMzYEH ISOLATED FORMrHEH WITH JEEM ISOLATED FORMαMEEM ISO"
      ++ "LATED FORM"),
    (0xfc13, "aARABIC LIGATURE THEH WITH ALEF MAKSURA ISOLATED FORMαYEH ISOLATED FORMqJEEM WITH HA"
      ++ "H ISOLATED FORMαMEEM ISOLATED FORMqHAH WITH JEEM ISOLATED FORMzMEEM ISOLATED FORMqKH"
      ++ "AH WITH JEEM ISOLATED FORMαHAH ISOLATED FORMαMEEM ISOLATED FORMqSEEN WITH JEEM ISOLA"
      ++ "TED FORMαHAH ISOLATED FORMαKHAH ISOLATED FORMαMEEM ISOLATED FORMrAD WITH HAH ISOLATE"
      ++ "D FORMzMEEM ISOLATED FORMqDAD WITH JEEM ISOLATED FORMzHAH ISOLATED FORMzKHAH ISOLATE"
      ++ "D FORMzMEEM ISOLATED FORMqTAH WITH HAH ISOLATED FORMzMEEM ISOLATED FORMqZAH WITH MEE"
      ++ "M ISOLATED FORMqAIN WITH JEEM ISOLATED FORMzMEEM ISOLATED FORMqGHAIN WITH JEEM ISOLA"
      ++ "TED FORMβMEEM ISOLATED FORMqFEH WITH JEEM ISOLATED FORMzHAH ISOLATED FORMzKHAH ISOLA"
      ++ "TED FORMzMEEM ISOLATED FORMzALEF MAKSURA ISOLATED FORMzYEH ISOLATED FORMqQAF WITH HA"
      ++ "H ISOLATED FORMzMEEM ISOLATED FORMzALEF MAKSURA ISOLATED FORMzYEH ISOLATED FORMqKAF "
      ++ "WITH ALEF ISOLATED FORMzJEEM ISOLATED FORMzHAH ISOLATED FORMzKHAH ISOLATED FORMzLAM "
      ++ "ISOLATED FORMzMEEM ISOLATED FORMzALEF MAKSURA ISOLATED FORMzYEH ISOLATED FORMqLAM WI"
      ++ "TH JEEM ISOLATED FORMzHAH ISOLATED FORMzKHAH ISOLATED FORMzMEEM ISOLATED FORMzALEF M"
      ++ "AKSURA ISOLATED FORMzYEH ISOLATED FORMqMEEM WITH JEEM ISOLATED FORMαHAH ISOLATED FOR"
      ++ "MαKHAH ISOLATED FORMαMEEM ISOLATED FORMαALEF MAKSURA ISOLATED FORMαYEH ISOLATED FORM"
      ++ "qNOON WITH JEEM ISOLATED FORMαHAH ISOLATED FORMαKHAH ISOLATED FORMαMEEM ISOLATED FOR"
      ++ "MαALEF MAKSURA ISOLATED FORMαYEH ISOLATED FORMqHEH WITH JEEM ISOLATED FORMzMEEM ISOL"
      ++ "ATED FORM"),
    (0xfc53, "aARABIC LIGATURE HEH WITH ALEF MAKSURA ISOLATED FORMzYEH ISOLATED FORMqYEH WITH JEEM"
      ++ " ISOLATED FORMzHAH ISOLATED FORMzKHAH ISOLATED FORMzMEEM ISOLATED FORMzALEF MAKSURA "
      ++ "ISOLATED FORMzYEH ISOLATED FORMqTHAL WITH SUPERSCRIPT ALEF ISOLATED FORMqREH WITH SU"
      ++ "PERSCRIPT ALEF ISOLATED FORMqALEF MAKSURA WITH SUPERSCRIPT ALEF ISOLATED FORMqSHADDA"
      ++ " WITH DAMMATAN ISOLATED FORMγKASRATAN ISOLATED FORMγFATHA ISOLATED FORMγDAMMA ISOLAT"
      ++ "ED FORMγKASRA ISOLATED FORMγSUPERSCRIPT ALEF ISOLATED FORMqYEH WITH HAMZA ABOVE WITH"
      ++ " REH FINAL FORMρZAIN FINAL FORMρMEEM FINAL FORMρNOON FINAL FORMρALEF MAKSURA FINAL F"
      ++ "ORMρYEH FINAL FORMqBEH WITH REH FINAL FORMzZAIN FINAL FORMzMEEM FINAL FORMzNOON FINA"
      ++ "L FORMzALEF MAKSURA FINAL FORMzYEH FINAL FORMqTEH WITH REH FINAL FORMzZAIN FINAL FOR"
      ++ "MzMEEM FINAL FORMzNOON FINAL FORMzALEF MAKSURA FINAL FORMzYEH FINAL FORMrHEH WITH RE"
      ++ "H FINAL FORMαZAIN FINAL FORMαMEEM FINAL FORMαNOON FINAL FORMαALEF MAKSURA FINAL FORM"
      ++ "αYEH FINAL FORMqFEH WITH ALEF MAKSURA FINAL FORMzYEH FINAL FORMqQAF WITH ALEF MAKSUR"
      ++ "A FINAL FORMzYEH FINAL FORMqKAF WITH ALEF FINAL FORMzLAM FINAL FORMzMEEM FINAL FORMz"
      ++ "ALEF MAKSURA FINAL FORMzYEH FINAL FORMqLAM WITH MEEM FINAL FORMzALEF MAKSURA FINAL F"
      ++ "ORMzYEH FINAL FORMqMEEM WITH ALEF FINAL FORMαMEEM FINAL FORMqNOON WITH REH FINAL FOR"
      ++ "MαZAIN FINAL FORMαMEEM FINAL FORMαNOON FINAL FORMαALEF MAKSURA FINAL FORMαYEH FINAL "
      ++ "FORMqALEF MAKSURA WITH SUPERSCRIPT ALEF FINAL FORMqYEH WITH REH FINAL FORMzZAIN FINA"
      ++ "L FORM"),
    (0xfc93, "aARABIC LIGATURE YEH WITH MEEM FINAL FORMzNOON FINAL FORMzALEF MAKSURA FINAL FORMzYE"
      ++ "H FINAL FORMzHAMZA ABOVE WITH JEEM INITIAL FORMρHAH INITIAL FORMρKHAH INITIAL FORMρM"
      ++ "EEM INITIAL FORMρHEH INITIAL FORMqBEH WITH JEEM INITIAL FORMzHAH INITIAL FORMzKHAH I"
      ++ "NITIAL FORMzMEEM INITIAL FORMzHEH INITIAL FORMqTEH WITH JEEM INITIAL FORMzHAH INITIA"
      ++ "L FORMzKHAH INITIAL FORMzMEEM INITIAL FORMzHEH INITIAL FORMrHEH WITH MEEM INITIAL FO"
      ++ "RMqJEEM WITH HAH INITIAL FORMαMEEM INITIAL FORMqHAH WITH JEEM INITIAL FORMzMEEM INIT"
      ++ "IAL FORMqKHAH WITH JEEM INITIAL FORMαMEEM INITIAL FORMqSEEN WITH JEEM INITIAL FORMαH"
      ++ "AH INITIAL FORMαKHAH INITIAL FORMαMEEM INITIAL FORMrAD WITH HAH INITIAL FORMzKHAH IN"
      ++ "ITIAL FORMzMEEM INITIAL FORMqDAD WITH JEEM INITIAL FORMzHAH INITIAL FORMzKHAH INITIA"
      ++ "L FORMzMEEM INITIAL FORMqTAH WITH HAH INITIAL FORMqZAH WITH MEEM INITIAL FORMqAIN WI"
      ++ "TH JEEM INITIAL FORMzMEEM INITIAL FORMqGHAIN WITH JEEM INITIAL FORMβMEEM INITIAL FOR"
      ++ "MqFEH WITH JEEM INITIAL FORMzHAH INITIAL FORMzKHAH INITIAL FORMzMEEM INITIAL FORMqQA"
      ++ "F WITH HAH INITIAL FORMzMEEM INITIAL FORMqKAF WITH JEEM INITIAL FORMzHAH INITIAL FOR"
      ++ "MzKHAH INITIAL FORMzLAM INITIAL FORMzMEEM INITIAL FORMqLAM WITH JEEM INITIAL FORMzHA"
      ++ "H INITIAL FORMzKHAH INITIAL FORMzMEEM INITIAL FORMzHEH INITIAL FORMqMEEM WITH JEEM I"
      ++ "NITIAL FORMαHAH INITIAL FORMαKHAH INITIAL FORMαMEEM INITIAL FORMqNOON WITH JEEM INIT"
      ++ "IAL FORM"),
    (0xfcd3, "aARABIC LIGATURE NOON WITH HAH INITIAL FORMαKHAH INITIAL FORMαMEEM INITIAL FORMαHEH "
      ++ "INITIAL FORMqHEH WITH JEEM INITIAL FORMzMEEM INITIAL FORMzSUPERSCRIPT ALEF INITIAL F"
      ++ "ORMqYEH WITH JEEM INITIAL FORMzHAH INITIAL FORMzKHAH INITIAL FORMzMEEM INITIAL FORMz"
      ++ "HEH INITIAL FORMαAMZA ABOVE WITH MEEM MEDIAL FORMρHEH MEDIAL FORMqBEH WITH MEEM MEDI"
      ++ "AL FORMzHEH MEDIAL FORMqTEH WITH MEEM MEDIAL FORMzHEH MEDIAL FORMrHEH WITH MEEM MEDI"
      ++ "AL FORMαHEH MEDIAL FORMqSEEN WITH MEEM MEDIAL FORMαHEH MEDIAL FORMrHEEN WITH MEEM ME"
      ++ "DIAL FORMβHEH MEDIAL FORMqKAF WITH LAM MEDIAL FORMzMEEM MEDIAL FORMqLAM WITH MEEM ME"
      ++ "DIAL FORMqNOON WITH MEEM MEDIAL FORMαHEH MEDIAL FORMqYEH WITH MEEM MEDIAL FORMzHEH M"
      ++ "EDIAL FORMqSHADDA WITH FATHA MEDIAL FORMγDAMMA MEDIAL FORMγKASRA MEDIAL FORMqTAH WIT"
      ++ "H ALEF MAKSURA ISOLATED FORMzYEH ISOLATED FORMqAIN WITH ALEF MAKSURA ISOLATED FORMzY"
      ++ "EH ISOLATED FORMqGHAIN WITH ALEF MAKSURA ISOLATED FORMβYEH ISOLATED FORMqSEEN WITH A"
      ++ "LEF MAKSURA ISOLATED FORMαYEH ISOLATED FORMrHEEN WITH ALEF MAKSURA ISOLATED FORMβYEH"
      ++ " ISOLATED FORMqHAH WITH ALEF MAKSURA ISOLATED FORMzYEH ISOLATED FORMqJEEM WITH ALEF "
      ++ "MAKSURA ISOLATED FORMαYEH ISOLATED FORMqKHAH WITH ALEF MAKSURA ISOLATED FORMαYEH ISO"
      ++ "LATED FORMqSAD WITH ALEF MAKSURA ISOLATED FORMzYEH ISOLATED FORMqDAD WITH ALEF MAKSU"
      ++ "RA ISOLATED FORMzYEH ISOLATED FORMqSHEEN WITH JEEM ISOLATED FORMβHAH ISOLATED FORMβK"
      ++ "HAH ISOLATED FORMβMEEM ISOLATED FORMβREH ISOLATED FORMrEEN WITH REH ISOLATED FORMrAD"
      ++ " WITH REH ISOLATED FORMqDAD WITH REH ISOLATED FORMqTAH WITH ALEF MAKSURA FINAL FORMz"
      ++ "YEH FINAL FORM"),
    (0xfd13, "aARABIC LIGATURE AIN WITH ALEF MAKSURA FINAL FORMzYEH FINAL FORMqGHAIN WITH ALEF MAK"
      ++ "SURA FINAL FORMβYEH FINAL FORMqSEEN WITH ALEF MAKSURA FINAL FORMαYEH FINAL FORMrHEEN"
      ++ " WITH ALEF MAKSURA FINAL FORMβYEH FINAL FORMqHAH WITH ALEF MAKSURA FINAL FORMzYEH FI"
      ++ "NAL FORMqJEEM WITH ALEF MAKSURA FINAL FORMαYEH FINAL FORMqKHAH WITH ALEF MAKSURA FIN"
      ++ "AL FORMαYEH FINAL FORMqSAD WITH ALEF MAKSURA FINAL FORMzYEH FINAL FORMqDAD WITH ALEF"
      ++ " MAKSURA FINAL FORMzYEH FINAL FORMqSHEEN WITH JEEM FINAL FORMβHAH FINAL FORMβKHAH FI"
      ++ "NAL FORMβMEEM FINAL FORMβREH FINAL FORMrEEN WITH REH FINAL FORMrAD WITH REH FINAL FO"
      ++ "RMqDAD WITH REH FINAL FORMqSHEEN WITH JEEM INITIAL FORMβHAH INITIAL FORMβKHAH INITIA"
      ++ "L FORMβMEEM INITIAL FORMrEEN WITH HEH INITIAL FORMrHEEN WITH HEH INITIAL FORMqTAH WI"
      ++ "TH MEEM INITIAL FORMqSEEN WITH JEEM MEDIAL FORMαHAH MEDIAL FORMαKHAH MEDIAL FORMrHEE"
      ++ "N WITH JEEM MEDIAL FORMβHAH MEDIAL FORMβKHAH MEDIAL FORMqTAH WITH MEEM MEDIAL FORMqZ"
      ++ "AH WITH MEEM MEDIAL FORMqALEF WITH FATHATAN FINAL FORMκISOLATED FORMaORNATE LEFT PAR"
      ++ "ENTHESIShRIGHT PARENTHESISaARABIC LIGATURE RAHIMAHU ALLAAHsDI ALLAAHU ANHηAAηUMιAAθN"
      ++ "NAqSALLALLAAHU ALAYHI WA-AALIHqALAYHI AS-SALAAMwM AS-SALAAMxAA AS-SALAAMw AS-SALAATU"
      ++ " WAS-SALAAMqQUDDISA SIRRAHqSALLALLAHU ALAYHI WAAALIHEE WA-SALLAMqALAYHAA AS-SALAAMqT"
      ++ "ABAARAKA WA-TAAALAAqRAHIMAHUM ALLAAHqTEH WITH JEEM WITH MEEM INITIAL FORMzHAH WITH J"
      ++ "EEM FINAL FORMξINITIAL FORM"),
    (0xfd53, "aARABIC LIGATURE TEH WITH HAH WITH MEEM INITIAL FORMzKHAH WITH MEEM INITIAL FORMzMEE"
      ++ "M WITH JEEM INITIAL FORMκHAH INITIAL FORMκKHAH INITIAL FORMqJEEM WITH MEEM WITH HAH "
      ++ "FINAL FORMοINITIAL FORMqHAH WITH MEEM WITH YEH FINAL FORMκALEF MAKSURA FINAL FORMqSE"
      ++ "EN WITH HAH WITH JEEM INITIAL FORMαJEEM WITH HAH INITIAL FORMλALEF MAKSURA FINAL FOR"
      ++ "MαMEEM WITH HAH FINAL FORMοINITIAL FORMλJEEM INITIAL FORMλMEEM FINAL FORMπINITIAL FO"
      ++ "RMrAD WITH HAH WITH HAH FINAL FORMνINITIAL FORMzMEEM WITH MEEM FINAL FORMrHEEN WITH "
      ++ "HAH WITH MEEM FINAL FORMπINITIAL FORMβJEEM WITH YEH FINAL FORMβMEEM WITH KHAH FINAL "
      ++ "FORMρINITIAL FORMμMEEM FINAL FORMρINITIAL FORMqDAD WITH HAH WITH ALEF MAKSURA FINAL "
      ++ "FORMzKHAH WITH MEEM FINAL FORMοINITIAL FORMqTAH WITH MEEM WITH HAH FINAL FORMξINITIA"
      ++ "L FORMκMEEM INITIAL FORMκYEH FINAL FORMqAIN WITH JEEM WITH MEEM FINAL FORMzMEEM WITH"
      ++ " MEEM FINAL FORMοINITIAL FORMκALEF MAKSURA FINAL FORMqGHAIN WITH MEEM WITH MEEM FINA"
      ++ "L FORMμYEH FINAL FORMμALEF MAKSURA FINAL FORMqFEH WITH KHAH WITH MEEM FINAL FORMοINI"
      ++ "TIAL FORMqQAF WITH MEEM WITH HAH FINAL FORMκMEEM FINAL FORMqLAM WITH HAH WITH MEEM F"
      ++ "INAL FORMιYEH FINAL FORMιALEF MAKSURA FINAL FORMzJEEM WITH JEEM INITIAL FORMοFINAL F"
      ++ "ORMzKHAH WITH MEEM FINAL FORMοINITIAL FORMzMEEM WITH HAH FINAL FORMξINITIAL FORMqMEE"
      ++ "M WITH HAH WITH JEEM INITIAL FORMκMEEM INITIAL FORMκYEH FINAL FORMαJEEM WITH HAH INI"
      ++ "TIAL FORMλMEEM INITIAL FORMαKHAH WITH JEEM INITIAL FORMλMEEM INITIAL FORM"),
    (0xfd92, "aARABIC LIGATURE MEEM WITH JEEM WITH KHAH INITIAL FORMqHEH WITH MEEM WITH JEEM INITI"
      ++ "AL FORMκMEEM INITIAL FORMqNOON WITH HAH WITH MEEM INITIAL FORMκALEF MAKSURA FINAL FO"
      ++ "RMαJEEM WITH MEEM FINAL FORMπINITIAL FORMλALEF MAKSURA FINAL FORMαMEEM WITH YEH FINA"
      ++ "L FORMλALEF MAKSURA FINAL FORMqYEH WITH MEEM WITH MEEM FINAL FORMοINITIAL FORMqBEH W"
      ++ "ITH KHAH WITH YEH FINAL FORMqTEH WITH JEEM WITH YEH FINAL FORMκALEF MAKSURA FINAL FO"
      ++ "RMzKHAH WITH YEH FINAL FORMκALEF MAKSURA FINAL FORMzMEEM WITH YEH FINAL FORMκALEF MA"
      ++ "KSURA FINAL FORMqJEEM WITH MEEM WITH YEH FINAL FORMαHAH WITH ALEF MAKSURA FINAL FORM"
      ++ "αMEEM WITH ALEF MAKSURA FINAL FORMqSEEN WITH KHAH WITH ALEF MAKSURA FINAL FORMrAD WI"
      ++ "TH HAH WITH YEH FINAL FORMrHEEN WITH HAH WITH YEH FINAL FORMqDAD WITH HAH WITH YEH F"
      ++ "INAL FORMqLAM WITH JEEM WITH YEH FINAL FORMzMEEM WITH YEH FINAL FORMqYEH WITH HAH WI"
      ++ "TH YEH FINAL FORMzJEEM WITH YEH FINAL FORMzMEEM WITH YEH FINAL FORMqMEEM WITH MEEM W"
      ++ "ITH YEH FINAL FORMqQAF WITH MEEM WITH YEH FINAL FORMqNOON WITH HAH WITH YEH FINAL FO"
      ++ "RMqQAF WITH MEEM WITH HAH INITIAL FORMqLAM WITH HAH WITH MEEM INITIAL FORMqAIN WITH "
      ++ "MEEM WITH YEH FINAL FORMqKAF WITH MEEM WITH YEH FINAL FORMqNOON WITH JEEM WITH HAH I"
      ++ "NITIAL FORMqMEEM WITH KHAH WITH YEH FINAL FORMqLAM WITH JEEM WITH MEEM INITIAL FORMq"
      ++ "KAF WITH MEEM WITH MEEM FINAL FORMqLAM WITH JEEM WITH MEEM FINAL FORMqNOON WITH JEEM"
      ++ " WITH HAH FINAL FORMqJEEM WITH HAH WITH YEH FINAL FORMqHAH WITH JEEM WITH YEH FINAL "
      ++ "FORMqMEEM WITH JEEM WITH YEH FINAL FORMqFEH WITH MEEM WITH YEH FINAL FORMqBEH WITH H"
      ++ "AH WITH YEH FINAL FORMqKAF WITH MEEM WITH MEEM INITIAL FORMqAIN WITH JEEM WITH MEEM "
      ++ "INITIAL FORMqSAD WITH MEEM WITH MEEM INITIAL FORMrEEN WITH KHAH WITH YEH FINAL FORMq"
      ++ "NOON WITH JEEM WITH YEH FINAL FORM"),
    (0xfdcf, "aARABIC LIGATURE SALAAMUHU ALAYNAA"),
    (0xfdf0, "aARABIC LIGATURE SALLA USED AS KORANIC STOP SIGN ISOLATED FORMqQALA USED AS KORANIC "
      ++ "STOP SIGN ISOLATED FORMqALLAH ISOLATED FORMrKBAR ISOLATED FORMqMOHAMMAD ISOLATED FOR"
      ++ "MqSALAM ISOLATED FORMqRASOUL ISOLATED FORMqALAYHE ISOLATED FORMqWASALLAM ISOLATED FO"
      ++ "RMqSALLA ISOLATED FORMvLLAHOU ALAYHE WASALLAMqJALLAJALALOUHOUaRIAL SIGNaARABIC LIGAT"
      ++ "URE BISMILLAH AR-RAHMAN AR-RAHEEMqSUBHAANAHU WA TAAALAAqAZZA WA JALLaVARIATION SELEC"
      ++ "TOR-1t2t3t4t5t6t7t8t9t10u1u2u3u4u5u6aPRESENTATION FORM FOR VERTICAL COMMAζIDEOGRAPHI"
      ++ "C COMMAσFULL STOPζCOLONζSEMICOLONζEXCLAMATION MARKζQUESTION MARKζLEFT WHITE LENTICUL"
      ++ "AR BRACKETζRIGHT WHITE LENTICULAR BRAKCETζHORIZONTAL ELLIPSIS"),
    (0xfe20, "aCOMBINING LIGATURE LEFT HALFtRIGHT HALFkDOUBLE TILDE LEFT HALFxRIGHT HALFkMACRON LE"
      ++ "FT HALFrRIGHT HALFkCONJOINING MACRONkLIGATURE LEFT HALF BELOWtRIGHT HALF BELOWkTILDE"
      ++ " LEFT HALF BELOWqRIGHT HALF BELOWkMACRON LEFT HALF BELOWrRIGHT HALF BELOWkCONJOINING"
      ++ " MACRON BELOWlYRILLIC TITLO LEFT HALFzRIGHT HALFaPRESENTATION FORM FOR VERTICAL TWO "
      ++ "DOT LEADERζEM DASHηN DASHζLOW LINEζWAVY LOW LINEζLEFT PARENTHESISζRIGHT PARENTHESISζ"
      ++ "LEFT CURLY BRACKETζRIGHT CURLY BRACKETζLEFT TORTOISE SHELL BRACKETζRIGHT TORTOISE SH"
      ++ "ELL BRACKETζLEFT BLACK LENTICULAR BRACKETζRIGHT BLACK LENTICULAR BRACKETζLEFT DOUBLE"
      ++ " ANGLE BRACKETζRIGHT DOUBLE ANGLE BRACKETζLEFT ANGLE BRACKETζRIGHT ANGLE BRACKETζLEF"
      ++ "T CORNER BRACKETζRIGHT CORNER BRACKETζLEFT WHITE CORNER BRACKETζRIGHT WHITE CORNER B"
      ++ "RACKETaSESAME DOTaWHITE SESAME DOTaPRESENTATION FORM FOR VERTICAL LEFT SQUARE BRACKE"
      ++ "TζRIGHT SQUARE BRACKETaDASHED OVERLINEaCENTRELINE OVERLINEaWAVY OVERLINEaDOUBLE WAVY"
      ++ " OVERLINEbASHED LOW LINEaCENTRELINE LOW LINEaWAVY LOW LINEaSMALL COMMAgIDEOGRAPHIC C"
      ++ "OMMAgFULL STOP"),
    (0xfe54, "aSMALL SEMICOLONgCOLONgQUESTION MARKgEXCLAMATION MARKhM DASHgLEFT PARENTHESISgRIGHT "
      ++ "PARENTHESISgLEFT CURLY BRACKETgRIGHT CURLY BRACKETgLEFT TORTOISE SHELL BRACKETgRIGHT"
      ++ " TORTOISE SHELL BRACKETgNUMBER SIGNgAMPERSANDhSTERISKgPLUS SIGNgHYPHEN-MINUSgLESS-TH"
      ++ "AN SIGNgGREATER-THAN SIGNgEQUALS SIGN"),
    (0xfe68, "aSMALL REVERSE SOLIDUSgDOLLAR SIGNgPERCENT SIGNgCOMMERCIAL AT"),
    (0xfe70, "aARABIC FATHATAN ISOLATED FORMhTATWEEL WITH FATHATAN ABOVEhDAMMATAN ISOLATED FORMhTA"
      ++ "IL FRAGMENThKASRATAN ISOLATED FORM"),
    (0xfe76, "aARABIC FATHA ISOLATED FORMnMEDIAL FORMhDAMMA ISOLATED FORMnMEDIAL FORMhKASRA ISOLAT"
      ++ "ED FORMnMEDIAL FORMhSHADDA ISOLATED FORMoMEDIAL FORMiUKUN ISOLATED FORMnMEDIAL FORMh"
      ++ "LETTER HAMZA ISOLATED FORMoALEF WITH MADDA ABOVE ISOLATED FORMλFINAL FORMyHAMZA ABOV"
      ++ "E ISOLATED FORMλFINAL FORMoWAW WITH HAMZA ABOVE ISOLATED FORMκFINAL FORMoALEF WITH H"
      ++ "AMZA BELOW ISOLATED FORMλFINAL FORMoYEH WITH HAMZA ABOVE ISOLATED FORMκFINAL FORMκIN"
      ++ "ITIAL FORMκMEDIAL FORMoALEF ISOLATED FORMtFINAL FORMoBEH ISOLATED FORMsFINAL FORMsIN"
      ++ "ITIAL FORMsMEDIAL FORMoTEH MARBUTA ISOLATED FORMαFINAL FORMsISOLATED FORMsFINAL FORM"
      ++ "sINITIAL FORMsMEDIAL FORMpHEH ISOLATED FORMtFINAL FORMtINITIAL FORMtMEDIAL FORMoJEEM"
      ++ " ISOLATED FORMtFINAL FORMtINITIAL FORMtMEDIAL FORMoHAH ISOLATED FORMsFINAL FORMsINIT"
      ++ "IAL FORMsMEDIAL FORMoKHAH ISOLATED FORMtFINAL FORMtINITIAL FORMtMEDIAL FORMoDAL ISOL"
      ++ "ATED FORMsFINAL FORMoTHAL ISOLATED FORMtFINAL FORMoREH ISOLATED FORMsFINAL FORMoZAIN"
      ++ " ISOLATED FORMtFINAL FORMoSEEN ISOLATED FORMtFINAL FORMtINITIAL FORMtMEDIAL FORMpHEE"
      ++ "N ISOLATED FORM"),
    (0xfeb6, "aARABIC LETTER SHEEN FINAL FORMuINITIAL FORMuMEDIAL FORMpAD ISOLATED FORMsFINAL FORM"
      ++ "sINITIAL FORMsMEDIAL FORMoDAD ISOLATED FORMsFINAL FORMsINITIAL FORMsMEDIAL FORMoTAH "
      ++ "ISOLATED FORMsFINAL FORMsINITIAL FORMsMEDIAL FORMoZAH ISOLATED FORMsFINAL FORMsINITI"
      ++ "AL FORMsMEDIAL FORMoAIN ISOLATED FORMsFINAL FORMsINITIAL FORMsMEDIAL FORMoGHAIN ISOL"
      ++ "ATED FORMuFINAL FORMuINITIAL FORMuMEDIAL FORMoFEH ISOLATED FORMsFINAL FORMsINITIAL F"
      ++ "ORMsMEDIAL FORMoQAF ISOLATED FORMsFINAL FORMsINITIAL FORMsMEDIAL FORMoKAF ISOLATED F"
      ++ "ORMsFINAL FORMsINITIAL FORMsMEDIAL FORMoLAM ISOLATED FORMsFINAL FORMsINITIAL FORMsME"
      ++ "DIAL FORMoMEEM ISOLATED FORMtFINAL FORMtINITIAL FORMtMEDIAL FORMoNOON ISOLATED FORMt"
      ++ "FINAL FORMtINITIAL FORMtMEDIAL FORMoHEH ISOLATED FORMsFINAL FORMsINITIAL FORMsMEDIAL"
      ++ " FORMoWAW ISOLATED FORMsFINAL FORMoALEF MAKSURA ISOLATED FORMβFINAL FORMoYEH ISOLATE"
      ++ "D FORMsFINAL FORMsINITIAL FORMsMEDIAL FORMiIGATURE LAM WITH ALEF WITH MADDA ABOVE IS"
      ++ "OLATED FORM"),
    (0xfef6, "aARABIC LIGATURE LAM WITH ALEF WITH MADDA ABOVE FINAL FORMκHAMZA ABOVE ISOLATED FORM"
      ++ "χFINAL FORMπBELOW ISOLATED FORMχFINAL FORMεISOLATED FORMεFINAL FORM"),
    (0xfeff, "aZERO WIDTH NO-BREAK SPACE"),
    (0xff01, "aFULLWIDTH EXCLAMATION MARKkQUOTATION MARKkNUMBER SIGNkDOLLAR SIGNkPERCENT SIGNkAMPE"
      ++ "RSANDlPOSTROPHEkLEFT PARENTHESISkRIGHT PARENTHESISkASTERISKkPLUS SIGNkCOMMAkHYPHEN-M"
      ++ "INUSkFULL STOPkSOLIDUSkDIGIT ZEROqONEqTWOrHREEqFOURrIVEqSIXrEVENqEIGHTqNINEkCOLONkSE"
      ++ "MICOLONkLESS-THAN SIGNkEQUALS SIGNkGREATER-THAN SIGNkQUESTION MARKkCOMMERCIAL ATkLAT"
      ++ "IN CAPITAL LETTER AζBζCζDζEζFζGζHζIζJζKζLζMζNζOζPζQζRζSζTζUζVζWζXζYζZlEFT SQUARE BRA"
      ++ "CKETkREVERSE SOLIDUSlIGHT SQUARE BRACKETkCIRCUMFLEX ACCENTkLOW LINEkGRAVE ACCENT"),
    (0xff41, "aFULLWIDTH LATIN SMALL LETTER AδBδCδDδEδFδGδHδIδJδKδLδMδNδOδPδQδRδSδTδUδVδWδXδYδZlEF"
      ++ "T CURLY BRACKETkVERTICAL LINEkRIGHT CURLY BRACKETkTILDEkLEFT WHITE PARENTHESISkRIGHT"
      ++ " WHITE PARENTHESISaHALFWIDTH IDEOGRAPHIC FULL STOPkLEFT CORNER BRACKETkRIGHT CORNER "
      ++ "BRACKETkIDEOGRAPHIC COMMAkKATAKANA MIDDLE DOTtLETTER WOαSMALL AηIηUηEηOηYAθUθOηTUs-H"
      ++ "IRAGANA PROLONGED SOUND MARKs LETTER AαIαUαEαOαKAβIβUβEβOαSAβIβUβEβOαTA"),
    (0xff81, "aHALFWIDTH KATAKANA LETTER TIβUβEβOαNAβIβUβEβOαHAβIβUβEβOαMAβIβUβEβOαYAβUβOαRAβIβUβE"
      ++ "βOαWAαNtVOICED SOUND MARKtSEMI-VOICED SOUND MARKkHANGUL FILLERrLETTER KIYEOKySSANGKI"
      ++ "YEOKyKIYEOK-SIOSyNIEUNδ-CIEUCεHIEUHyTIKEUTySSANGTIKEUTyRIEULδ-KIYEOKεMIEUMεPIEUPεSIO"
      ++ "SεTHIEUTHεPHIEUPHεHIEUHyMIEUMyPIEUPySSANGPIEUPyPIEUP-SIOSySIOSzSANGSIOSyIEUNGyCIEUCy"
      ++ "SSANGCIEUCyCHIEUCHyKHIEUKHyTHIEUTHyPHIEUPHyHIEUH"),
    (0xffc2, "aHALFWIDTH HANGUL LETTER AzEyYAαEyEOz"),
    (0xffca, "aHALFWIDTH HANGUL LETTER YEOαyOyWAαEyOE"),
    (0xffd2, "aHALFWIDTH HANGUL LETTER YOyUyWEOαzIyYU"),
    (0xffda, "aHALFWIDTH HANGUL LETTER EUyYIyI"),
    (0xffe0, "aFULLWIDTH CENT SIGNkPOUND SIGNkNOT SIGNkMACRONkBROKEN BARkYEN SIGNkWON SIGN"),
    (0xffe8, "aHALFWIDTH FORMS LIGHT VERTICALkLEFTWARDS ARROWkUPWARDS ARROWkRIGHTWARDS ARROWkDOWNW"
      ++ "ARDS ARROWkBLACK SQUAREkWHITE CIRCLE"),
    (0xfff9, "aINTERLINEAR ANNOTATION ANCHORxSEPARATORxTERMINATORaOBJECT REPLACEMENT CHARACTERaREP"
      ++ "LACEMENT CHARACTER")
  ]

end ApiBridge.Text
