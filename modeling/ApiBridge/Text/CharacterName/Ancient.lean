/-!
# Names of characters: ancient

Letters and numbers of ancient and of rare scripts. A run starts at a code point; a
name starts with a mark for how much it shares with the one before.
-/

namespace ApiBridge.Text

/-- The names of these characters, in runs. -/
def ancientNames : List (Nat × String) :=
  [
    (0x10000, "aLINEAR B SYLLABLE B008 Au38 Eu28 Iu61 Ou10 Uu01 DAu45 DEu07 DIu14 DOu51 DUv7 JAu46 "
      ++ "JE"),
    (0x1000d, "aLINEAR B SYLLABLE B036 JOu65 JUu77 KAu44 KEu67 KIu70 KOu81 KUv0 MAu13 MEu73 MIu15 M"
      ++ "Ou23 MUu06 NAu24 NEu30 NIu52 NOv5 NUu03 PAu72 PEu39 PIu11 POu50 PUu16 QAu78 QEu21 QI"
      ++ "u32 QO"),
    (0x10028, "aLINEAR B SYLLABLE B060 RAu27 REu53 RIu02 ROu26 RUu31 SAu09 SEu41 SIu12 SOu58 SUv9 T"
      ++ "Au04 TEu37 TIu05 TOu69 TUu54 WAu75 WEu40 WIv2 WO"),
    (0x1003c, "aLINEAR B SYLLABLE B017 ZAu74 ZE"),
    (0x1003f, "aLINEAR B SYLLABLE B020 ZOv5 A2u43 A3u85 AUu71 DWEu90 DWOu48 NWAu29 PU2u62 PTEu76 RA"
      ++ "2u33 RA3u68 RO2v6 TA2u87 TWEu91 TWO"),
    (0x10050, "aLINEAR B SYMBOL B018t9s22s34s47t9s56s63t4s79s82t3t6t9"),
    (0x10080, "aLINEAR B IDEOGRAM B100 MANv2 WOMANv4 DEERv5 EQUIDwF MAREwM STALLIONv6F EWEwM RAMv7F"
      ++ " SHE-GOATwM HE-GOATv8F SOWwM BOARv9F COWwM BULLu20 WHEATv1 BARLEYv2 OLIVEv3 SPICEv5 "
      ++ "CYPERUSjMONOGRAM B127 KAPOv8 KANAKOjIDEOGRAM B130 OILv1 WINEv2jMONOGRAM B133 AREPAv5"
      ++ " MERIjIDEOGRAM B140 BRONZEv1 GOLDv2v5 WOOLv6u50v1 HORNv2v3v4jMONOGRAM B156 TURO2jIDE"
      ++ "OGRAM B157v8v9 CLOTHu60v1v2 GARMENTv3 ARMOURv4v5v6v7v8v9u70v1v2v3 MONTHv4v6 TREEv7v8"
      ++ "v9u80v1v2v3v4"),
    (0x100c0, "aLINEAR B IDEOGRAM B185v9u90v1 HELMETt220 FOOTSTOOLv5 BATHTUBu30 SPEARv1 ARROWv2v3 S"
      ++ "WORDv4v6u40 WHEELED CHARIOTv1 CHARIOTv2 CHARIOT FRAMEv3 WHEELv5v6jMONOGRAM B247 DIPT"
      ++ "EjIDEOGRAM B248v9u51v2v3v4 DARTv5v6v7v8v9sVESSEL B155α200γ1γ2γ3γ4γ5γ6γ7γ8γ9β10γ1γ2γ3"
      ++ "γ4γ5γ6γ7γ8γ9β21γ2γ6γ7γ8γ9β50α305"),
    (0x10100, "aAEGEAN WORD SEPARATOR LINEwDOThCHECK MARK"),
    (0x10107, "aAEGEAN NUMBER ONEoTWOpHREEoFOURpIVEoSIXpEVENoEIGHToNINEoTENpWENTYpHIRTYoFORTYpIFTYo"
      ++ "SIXTYpEVENTYoEIGHTYoNINETYoONE HUNDREDoTWO HUNDREDpHREE HUNDREDoFOUR HUNDREDpIVE HUN"
      ++ "DREDoSIX HUNDREDpEVEN HUNDREDoEIGHT HUNDREDoNINE HUNDREDoONE THOUSANDoTWO THOUSANDpH"
      ++ "REE THOUSANDoFOUR THOUSANDpIVE THOUSANDoSIX THOUSANDpEVEN THOUSANDoEIGHT THOUSANDoNI"
      ++ "NE THOUSANDoTEN THOUSANDpWENTY THOUSANDpHIRTY THOUSANDoFORTY THOUSANDpIFTY THOUSANDo"
      ++ "SIXTY THOUSANDpEVENTY THOUSANDoEIGHTY THOUSANDoNINETY THOUSAND"),
    (0x10137, "aAEGEAN WEIGHT BASE UNIToFIRST SUBUNIToSECOND SUBUNIToTHIRD SUBUNIToFOURTH SUBUNIThD"
      ++ "RY MEASURE FIRST SUBUNIThLIQUID MEASURE FIRST SUBUNIThMEASURE SECOND SUBUNITpTHIRD S"
      ++ "UBUNITaGREEK ACROPHONIC ATTIC ONE QUARTERβHALFβDRACHMAxFIVEzFTYzVE HUNDREDγTHOUSANDz"
      ++ "FTY THOUSANDzVE TALENTSxTEN TALENTSxFIFTY TALENTSxONE HUNDRED TALENTSxFIVE HUNDRED T"
      ++ "ALENTSxONE THOUSAND TALENTSxFIVE THOUSAND TALENTSγSTATERSxTEN STATERSxFIFTY STATERSx"
      ++ "ONE HUNDRED STATERSxFIVE HUNDRED STATERSxONE THOUSAND STATERSxTEN THOUSAND STATERSxF"
      ++ "IFTY THOUSAND STATERSxTEN MNASrHERAEUM ONE PLETHRONrTHESPIAN ONErHERMIONIAN ONErEPID"
      ++ "AUREAN TWOrTHESPIAN TWOrCYRENAIC TWO DRACHMASrEPIDAUREAN TWO DRACHMASrTROEZENIAN FIV"
      ++ "EγTENζ ALTERNATE FORMrHERMIONIAN TENrMESSENIAN TENrTHESPIAN TENβHIRTYsROEZENIAN FIFT"
      ++ "Yθ ALTERNATE FORMrHERMIONIAN FIFTYrTHESPIAN FIFTYαONE HUNDREDαTHREE HUNDREDrEPIDAURE"
      ++ "AN FIVE HUNDREDrTROEZENIAN FIVE HUNDREDsHESPIAN FIVE HUNDREDrCARYSTIAN FIVE HUNDREDr"
      ++ "NAXIAN FIVE HUNDREDrTHESPIAN ONE THOUSANDαFIVE THOUSANDrDELPHIC FIVE MNASrSTRATIAN F"
      ++ "IFTY MNASgONE HALF SIGNt ALTERNATE FORM"),
    (0x10177, "aGREEK TWO THIRDS SIGNhHREE QUARTERS SIGNgYEAR SIGNgTALENT SIGNgDRACHMA SIGNgOBOL SI"
      ++ "GNgTWO OBOLS SIGNhHREE OBOLS SIGNgFOUR OBOLS SIGNhIVE OBOLS SIGNgMETRETES SIGNgKYATH"
      ++ "OS BASE SIGNgLITRA SIGNgOUNKIA SIGNgXESTES SIGNgARTABE SIGNiOURA SIGNgGRAMMA SIGNgTR"
      ++ "YBLION BASE SIGNgZERO SIGNgONE QUARTER SIGNgSINUSOID SIGNgINDICTION SIGNaNOMISMA SIG"
      ++ "N"),
    (0x10190, "aROMAN SEXTANS SIGNgUNCIA SIGNgSEMUNCIA SIGNiXTULA SIGNgDIMIDIA SEXTULA SIGNgSILIQUA"
      ++ " SIGNgDENARIUS SIGNgQUINARIUS SIGNgSESTERTIUS SIGNgDUPONDIUS SIGNgAS SIGNgCENTURIAL "
      ++ "SIGNaASCIA SYMBOL"),
    (0x101a0, "aGREEK SYMBOL TAU RHO"),
    (0x101d0, "aPHAISTOS DISC SIGN PEDESTRIANuLUMED HEADtTATTOOED HEADtCAPTIVEuHILDtWOMANtHELMETtGA"
      ++ "UNTLETtTIARAtARROWtBOWtSHIELDtCLUBtMANACLESvTTOCKtSAWtLIDtBOOMERANGtCARPENTRY PLANEt"
      ++ "DOLIUMtCOMBtSLINGtCOLUMNtBEEHIVEtSHIPtHORNuIDEtBULLS LEGtCATtRAMtEAGLEtDOVEtTUNNYtBE"
      ++ "EtPLANE TREEtVINEtPAPYRUStROSETTEtLILYtOX BACKtFLUTEtGRATERtSTRAINERuMALL AXEtWAVY B"
      ++ "ANDtCOMBINING OBLIQUE STROKE"),
    (0x10280, "aLYCIAN LETTER AoEoBpHoGoDoIoWoZoTHoJoKoQoLoMoNoMMoNNoUoPoKKoRoSoTpToANoENoHoX"),
    (0x102a0, "aCARIAN LETTER AoP2oDoLoUUUoRoLDoA2oQoBoMoOoD2oToSHq2poC-18oUoNNoXoNoTT2oPoSSoIoEoUU"
      ++ "UUoKp2oNDoUUoGp2oSTq2oNGoIIoC-39oTToUUU2oRRoMBq2q3q4oLD2oE2oUUU3"),
    (0x102e0, "aCOPTIC EPACT THOUSANDS MARKnDIGIT ONEtTWOuHREEtFOURuIVEtSIXuEVENtEIGHTtNINEnNUMBER "
      ++ "TENvWENTYvHIRTYuFORTYvIFTYuSIXTYvEVENTYuEIGHTYuNINETYuONE HUNDREDuTWO HUNDREDvHREE H"
      ++ "UNDREDuFOUR HUNDREDvIVE HUNDREDuSIX HUNDREDvEVEN HUNDREDuEIGHT HUNDREDuNINE HUNDRED"),
    (0x10300, "aOLD ITALIC LETTER AsBEsKEsDEsEsVEsZEsHEsTHEsIsKAsELtMtNtSHsOsPEsSHEsKUsERtSsTEsUsEK"
      ++ "SsPHEsKHEsEFtRSsCHEsIIsUUsESSlNUMERAL ONEtFIVEtTENtFIFTY"),
    (0x1032d, "aOLD ITALIC LETTER YEsNORTHERN TSEsSOUTHERN TSEaGOTHIC LETTER AHSAoBAIRKANoGIBAoDAGS"
      ++ "oAIHVUSoQAIRTHRAoIUJAoHAGLoTHIUTHoEISoKUSMAoLAGUSoMANNAoNAUTHSoJERoURUSoPAIRTHRAoNIN"
      ++ "ETYoRAIDAoSAUILoTEIWSoWINJAoFAIHUoIGGWSoHWAIRoOTHALoNINE HUNDRED"),
    (0x10350, "aOLD PERMIC LETTER ANsBURsGAIsDOIsEsZHOIsDZHOIsZATAsDZITAsIsKOKEsLEIsMENOEsNENOEsVOO"
      ++ "IsPEEIsREIsSIIsTAIsUsCHERYsSHOOIuCHOOIsYRYtERUsOtOsEFsHAsTSIUsVERsYERvItATsIEsYUtAsI"
      ++ "AaCOMBINING OLD PERMIC LETTER ANγDOIγZATAγNENOEγSII"),
    (0x10380, "aUGARITIC LETTER ALPAqBETAqGAMLAqKHAqDELTAqHOqWOqZETAqHOTAqTETqYODqKAFqSHINqLAMDAqME"
      ++ "MqDHALqNUNqZUqSAMKAqAINqPUqSADEqQOPAqRASHAqTHANNAqGHAINqTOqIqUqSSU"),
    (0x1039f, "aUGARITIC WORD DIVIDERaOLD PERSIAN SIGN ArIrUrKAsUrGAsUrXArCArJAsIrTAsUrDAsIsUrTHArP"
      ++ "ArBArFArNAsUrMAsIsUrYArVAsIrRAsUrLArSArZArSHAsSArHA"),
    (0x103c8, "aOLD PERSIAN SIGN AURAMAZDAAβ-2βHArXSHAAYATHIYArDAHYAAUSHα-2rBAGAsUUMISHmWORD DIVIDE"
      ++ "RmNUMBER ONEtTWOuENuWENTYtHUNDRED"),
    (0x10400, "aDESERET CAPITAL LETTER LONG IγEγAδHγOδOxSHORT IδEδAεHδOεOxAYxOWxWUxYEExHxPEExBEExTE"
      ++ "ExDEExCHEExJEExKAYxGAYxEFxVEExETHxTHEExESxZEExESHxZHEExERyLyMyNzGxOIxEWiSMALL LETTER"
      ++ " LONG IαEαAβHαOβOvSHORT IβEβAγHβOγOvAYvOWvWUvYEEvHvPEEvBEEvTEEvDEEvCHEEvJEEvKAY"),
    (0x10440, "aDESERET SMALL LETTER GAYvEFvVEEvETHvTHEEvESvZEEvESHvZHEEvERwLwMwNxGvOIvEWaSHAVIAN L"
      ++ "ETTER PEEPpTOTpKICKpFEEpTHIGHpSOqUREpCHURCHpYEApHUNGpBIBpDEADpGAGpVOWpTHEYpZOOpMEASU"
      ++ "REpJUDGEpWOEpHA-HApLOLLpMIMEpIFpEGGpASHqDOpONpWOOLpOUTpAHpROARpNUNpEATpAGEpICEpUPpOA"
      ++ "KqOZEqILpAWEqREpORpAIRpERRpARRAYpEARpIANpYEW"),
    (0x10480, "aOSMANYA LETTER ALEFpBApTApJApXApKHApDEELpRApSAqHIINpDHApCAYNpGApFApQAAFpKAAFpLAANpM"
      ++ "IINpNUUNpWAWpHApYApApEpIpOpUpAApEEpOO"),
    (0x104a0, "aOSMANYA DIGIT ZEROoONEoTWOpHREEoFOURpIVEoSIXpEVENoEIGHToNINE"),
    (0x104b0, "aOSAGE CAPITAL LETTER AwIxNwHvBRAvCHAvEHCHAwwINvHAwYAvIvKAvEHKAvKYAvLAvMAvNAvOwINvPA"
      ++ "vEHPAvSAwHAvTAvEHTAvTSAvEHTSAvTSHAvDHAvUvWAvKHAvGHAvZAwHA"),
    (0x104d8, "aOSAGE SMALL LETTER AuIvNuHtBRAtCHAtEHCHAuuINtHAuYAtItKAtEHKAtKYAtLAtMAtNAtOuINtPAtE"
      ++ "HPAtSAuHAtTAtEHTAtTSAtEHTSAtTSHAtDHAtUtWAtKHAtGHAtZAuHA"),
    (0x10500, "aELBASAN LETTER ApBEpCEqHEpDEpNDEpDHEpEIqpFEpGEqJEpHEpIpJEpKEpLEqLEpMEpNEqAqJEpOpPEp"
      ++ "QEpREqREpSEqHEpTEqHEpUpVEpXEpYpZEqHEpGHErAMMApKHE"),
    (0x10530, "aCAUCASIAN ALBANIAN LETTER ALTαBETαGIMαDATαEBαZARLαEYNαZHILαTASαCHAαYOWDαZHAαIRBαSHA"
      ++ "αLANαINYAαXEYNαDYANαCARαJHOXαKARαLYITαHEYTαQAYαAORαCHOYγIβYAYαMAQαQARαNOWCαDZYAYαSHA"
      ++ "KαJAYNαONαTYAYαFAMαDZAYαCHATαPENαGHEYSαRATαSEYKαVEYZαTIWRαSHOYαIWNαCYAWβAYNαYAYDαPIW"
      ++ "RαKIW"),
    (0x1056f, "aCAUCASIAN ALBANIAN CITATION MARKaVITHKUQI CAPITAL LETTER AyBBEzEyCEzHEyDEzHEyEIzyFE"
      ++ "yGA"),
    (0x1057c, "aVITHKUQI CAPITAL LETTER HAzHAyIzJEyJEyKAyLAzLAyMEyNEzJEyOyPEyQAyRE"),
    (0x1058c, "aVITHKUQI CAPITAL LETTER SEzHEyTEzHEyUyVEyXE"),
    (0x10594, "aVITHKUQI CAPITAL LETTER YyZE"),
    (0x10597, "aVITHKUQI SMALL LETTER AwBBExEwCExHEwDExHEwEIxwFEwGA"),
    (0x105a3, "aVITHKUQI SMALL LETTER HAxHAwIxJEwJEwKAwLAxLAwMEwNExJEwOwPEwQAwRE"),
    (0x105b3, "aVITHKUQI SMALL LETTER SExHEwTExHEwUwVEwXE"),
    (0x105bb, "aVITHKUQI SMALL LETTER YwZE"),
    (0x10600, "aLINEAR A SIGN AB001s2s3s4s5s6s7s8s9r10s1s3s6s7r20s1tFtMs2tFtMs3tMs4s6s7s8p028BpB029"
      ++ "r30s1s4s7s8s9r40s1s4s5s6s7s8s9r50s1s3s4s5s6s7s8s9r60s1s5s6s7s9r70s3s4s6s7s8"),
    (0x10640, "aLINEAR A SIGN AB079r80s1s2s5s6s7p100-102pB118r20p120BpB122s3r31AtBp131CpB164r71r80s"
      ++ "8r91p301r2r3r4r5r6r7r8r9AsBsCq10r1r2r3AsBsCr4r5r6r7r8r9q20r1r2r3r4r5r6r7r8r9q30r1r2r"
      ++ "3r4r5r6r7r8r9"),
    (0x10680, "aLINEAR A SIGN A340r1r2r3r4r5r6r7r8r9q50r1r2r3r4r5r6r7r8r9q60r1r2r3r4r5r6r7r8r9q70r1"
      ++ "p400-VASr1-VASr2-VASr3-VASr4-VASr5-VASr6-VASr7-VASr8-VASr9-VASq10-VASr1-VASr2-VASr3-"
      ++ "VASr4-VASr5-VASr6-VASr7-VASr8-VASp501r2r3r4r5r6r8r9q10r1r2r3r5"),
    (0x106c0, "aLINEAR A SIGN A516q20r1r3r4r5r6r7r8r9q30r1r2r4r5r6r7r8r9q40r1r2r5r7r8r9q50r1r2r3r4r"
      ++ "5r6r7r9q63r4r5r6r8r9q70r1r2r3r4r5r6r7r8r9q80r1r2r3r4r5r6r7r8r9q91r2r4"),
    (0x10700, "aLINEAR A SIGN A595r6r8p600r1r2r3r4r6r8r9q10r1r2r3r4r5r6r7r8r9q20r1r2r3r4r6r7r8r9q34"
      ++ "r7r8q40r2r3r4r5r6r8r9q51r2r3r4r5r6r7r8r9q60r1r2r3r4"),
    (0x10740, "aLINEAR A SIGN A701 Ar2 Br3 Dr4 Er5 Fr6 Hr7 Jr8 Kr9 Ls-2 L2t3 L3t4 L4t6 L6q10 Wr1 Xr"
      ++ "2 Yr3 OMEGAr4 ABBr5 BBr7 DDq26 EYYYq32 JE"),
    (0x10760, "aLINEAR A SIGN A800r1r2r3r4r5r6r7"),
    (0x10780, "aMODIFIER LETTER SMALL CAPITAL AArUPERSCRIPT TRIANGULAR COLONγHALF TRIANGULAR COLONr"
      ++ "MALL AEwCAPITAL BwB WITH HOOK"),
    (0x10787, "aMODIFIER LETTER SMALL DZ DIGRAPHη WITH RETROFLEX HOOKνCURLxEZH DIGRAPHx WITH TAILδH"
      ++ "OOKθ AND TAILwREVERSED EwCLOSED REVERSED OPEN EwFENG DIGRAPHwRAMS HORNwCAPITAL GwG W"
      ++ "ITH HOOKwCAPITAL G WITH HOOKwH WITH STROKEwCAPITAL HwHENG WITH HOOKwDOTLESS J WITH S"
      ++ "TROKE AND HOOKwLS DIGRAPHxZ DIGRAPHx WITH BELTwCAPITAL L WITH BELTwL WITH RETROFLEX "
      ++ "HOOK AND BELTxEZHα WITH RETROFLEX HOOKwTURNED Yε WITH BELTwO WITH STROKEwCAPITAL OEx"
      ++ "LOSED OMEGAwQwTURNED R WITH LONG LEGτ AND RETROFLEX HOOKwR WITH TAILδFISHHOOKwCAPITA"
      ++ "L RwTC DIGRAPH WITH CURLxS DIGRAPHη WITH RETROFLEX HOOKxESH DIGRAPHx WITH RETROFLEX "
      ++ "HOOKwV WITH RIGHT HOOK"),
    (0x107b2, "aMODIFIER LETTER SMALL CAPITAL YqGLOTTAL STOP WITH STROKEqREVERSED GLOTTAL STOP WITH"
      ++ " STROKEqBILABIAL CLICKqDENTAL CLICKqLATERAL CLICKqALVEOLAR CLICKqRETROFLEX CLICK WIT"
      ++ "H RETROFLEX HOOKqSMALL S WITH CURL"),
    (0x10800, "aCYPRIOT SYLLABLE ArErIrOrUrJA"),
    (0x10808, "aCYPRIOT SYLLABLE JO"),
    (0x1080a, "aCYPRIOT SYLLABLE KAsEsIsOsUrLAsEsIsOsUrMAsEsIsOsUrNAsEsIsOsUrPAsEsIsOsUrRAsEsIsOsUr"
      ++ "SAsEsIsOsUrTAsEsIsOsUrWAsEsIsO"),
    (0x10837, "aCYPRIOT SYLLABLE XAsE"),
    (0x1083c, "aCYPRIOT SYLLABLE ZA"),
    (0x1083f, "aCYPRIOT SYLLABLE ZOaIMPERIAL ARAMAIC LETTER ALEPHyBETHyGIMELyDALETHyHEyWAWyZAYINyHE"
      ++ "THyTETHyYODHyKAPHyLAMEDHyMEMyNUNySAMEKHyAYINyPEySADHEyQOPHyRESHySHINyTAW"),
    (0x10857, "aIMPERIAL ARAMAIC SECTION SIGNrNUMBER ONEyTWOzHREEzENzWENTYyONE HUNDREDγTHOUSANDyTEN"
      ++ " THOUSANDaPALMYRENE LETTER ALEPHrBETHrGIMELrDALETHrHErWAWrZAYINrHETHrTETHrYODHrKAPHr"
      ++ "LAMEDHrMEMrFINAL NUNrNUNrSAMEKHrAYINrPErSADHErQOPHrRESHrSHINrTAWmFT-POINTING FLEURON"
      ++ "kRIGHT-POINTING FLEURONkNUMBER ONErTWOsHREErFOURsIVErTENsWENTYaNABATAEAN LETTER FINA"
      ++ "L ALEPHrALEPHrFINAL BETHrBETHrGIMELrDALETHrFINAL HErHErWAWrZAYINrHETHrTETHrFINAL YOD"
      ++ "HrYODHrFINAL KAPHrKAPHrFINAL LAMEDHrLAMEDHrFINAL MEMrMEMrFINAL NUNrNUNrSAMEKH"),
    (0x10897, "aNABATAEAN LETTER AYINrPErSADHErQOPHrRESHrFINAL SHINrSHINrTAW"),
    (0x108a7, "aNABATAEAN NUMBER ONErTWOsHREErFOURkCRUCIFORM NUMBER FOURkNUMBER FIVErTENsWENTYrONE "
      ++ "HUNDRED"),
    (0x108e0, "aHATRAN LETTER ALEPHoBETHoGIMELoDALETH-RESHoHEoWAWoZAYNoHETHoTETHoYODHoKAPHoLAMEDHoM"
      ++ "EMoNUNoSAMEKHoAYNoPEoSADHEoQOPH"),
    (0x108f4, "aHATRAN LETTER SHINoTAW"),
    (0x108fb, "aHATRAN NUMBER ONEoFIVEoTENpWENTYoONE HUNDREDaPHOENICIAN LETTER ALFsBETsGAMLsDELTsHE"
      ++ "sWAUsZAIsHETsTETsYODsKAFsLAMDsMEMsNUNsSEMKsAINsPEsSADEsQOFsROSHsSHINsTAUlNUMBER ONEs"
      ++ "TENtWENTYsONE HUNDREDsTWOtHREE"),
    (0x1091f, "aPHOENICIAN WORD SEPARATORaLYDIAN LETTER AoBoGoDoEoVoIoYoKoLoMoNoOoRoSSoToUoFoQoSoTT"
      ++ "oANoENoLYoNNoC"),
    (0x1093f, "aLYDIAN TRIANGULAR MARK"),
    (0x10980, "aMEROITIC HIEROGLYPHIC LETTER AδEδIδOδYAδWAδBAζ-2δPAδMAδNAζ-2εEζ-2δRAζ-2δLAδKHAδHHAδ"
      ++ "SAζ-2εEδKAδQAδTAζ-2εEζ-2εOδDAwSYMBOL VIDJθ-2jCURSIVE LETTER AyEyIyOyYAyWAyBAyPAyMAyN"
      ++ "AzEyRAyLAyKHAyHHAySAyARCHAIC SAySEyKAyQAyTAzEzOyDA"),
    (0x109bc, "aMEROITIC CURSIVE FRACTION ELEVEN TWELFTHSαONE HALFrLOGOGRAM RMTαIMNrNUMBER ONEyTWOz"
      ++ "HREEyFOURzIVEySIXzEVENyEIGHTyNINEyTENzWENTYzHIRTYyFORTYzIFTYySIXTYzEVENTY"),
    (0x109d2, "aMEROITIC CURSIVE NUMBER ONE HUNDREDyTWO HUNDREDzHREE HUNDREDyFOUR HUNDREDzIVE HUNDR"
      ++ "EDySIX HUNDREDzEVEN HUNDREDyEIGHT HUNDREDyNINE HUNDREDyONE THOUSANDyTWO THOUSANDzHRE"
      ++ "E THOUSANDyFOUR THOUSANDzIVE THOUSANDySIX THOUSANDzEVEN THOUSANDyEIGHT THOUSANDyNINE"
      ++ " THOUSANDyTEN THOUSANDzWENTY THOUSANDzHIRTY THOUSANDyFORTY THOUSANDzIFTY THOUSANDySI"
      ++ "XTY THOUSANDzEVENTY THOUSANDyEIGHTY THOUSANDyNINETY THOUSANDyONE HUNDRED THOUSANDyTW"
      ++ "O HUNDRED THOUSANDzHREE HUNDRED THOUSANDyFOUR HUNDRED THOUSANDzIVE HUNDRED THOUSANDy"
      ++ "SIX HUNDRED THOUSANDzEVEN HUNDRED THOUSANDyEIGHT HUNDRED THOUSANDyNINE HUNDRED THOUS"
      ++ "ANDrFRACTION ONE TWELFTHαTWO TWELFTHSβHREE TWELFTHSαFOUR TWELFTHSβIVE TWELFTHSαSIX T"
      ++ "WELFTHSβEVEN TWELFTHSαEIGHT TWELFTHSαNINE TWELFTHSαTEN TWELFTHSaKHAROSHTHI LETTER Al"
      ++ "VOWEL SIGN IwUwVOCALIC R"),
    (0x10a05, "aKHAROSHTHI VOWEL SIGN EwO"),
    (0x10a0c, "aKHAROSHTHI VOWEL LENGTH MARKlSIGN DOUBLE RING BELOWqANUSVARAqVISARGAlLETTER KAtHAsG"
      ++ "AtHA"),
    (0x10a15, "aKHAROSHTHI LETTER CAtHAsJA"),
    (0x10a19, "aKHAROSHTHI LETTER NYAsTTAuHAsDDAuHAsNNAsTAtHAsDAtHAsNAsPAtHAsBAtHAsMAsYAsRAsLAsVAsS"
      ++ "HAtSAtAsZAsHAsKKAsTTTHAvAsVHA"),
    (0x10a38, "aKHAROSHTHI SIGN BAR ABOVEqCAUDAqDOT BELOW"),
    (0x10a3f, "aKHAROSHTHI VIRAMAlDIGIT ONErTWOsHREErFOURlNUMBER TENtWENTYsONE HUNDREDwTHOUSANDlFRA"
      ++ "CTION ONE HALF"),
    (0x10a50, "aKHAROSHTHI PUNCTUATION DOTxSMALL CIRCLExCIRCLEyRESCENT BARxMANGALAMxLOTUSxDANDAyOUB"
      ++ "LE DANDAxLINES"),
    (0x10a60, "aOLD SOUTH ARABIAN LETTER HEzLAMEDHzHETHzMEMzQOPHzWAWzSHINzRESHzBETHzTAWzSATzKAPHzNU"
      ++ "NzKHETHzSADHEβMEKHzFEzALEFαYNzDHADHEzGIMELzDALETHzGHAYNzTETHzZAYNzDHALETHzYODHzTHAWβ"
      ++ "ETHsNUMBER ONEzFIFTYvERIC INDICATOReNORTH ARABIAN LETTER HEHzLAMzHAHzMEEMzQAFzWAWzES"
      ++ "-2zREHzBEHzTEHzES-1zKAFzNOONzKHAHzSADzES-3zFEHzALEFαINzDADzGEEMzDALzGHAINzTAHzZAINzT"
      ++ "HALzYEHzTHEHzZAHsNUMBER ONEzTENαWENTY"),
    (0x10ac0, "aMANICHAEAN LETTER ALEPHsBETHtHETHsGIMELtHIMELsDALETHsHEsWAWlSIGN UDlLETTER ZAYINtHA"
      ++ "YINsJAYINtHAYINsHETHsTETHsYODHsKAPHsXAPHsKHAPHsLAMEDHsDHAMEDHsTHAMEDHsMEMsNUNsSAMEKH"
      ++ "sAYINtAYINsPEsFEsSADHEsQOPHsXOPHsQHOPHsRESHsSHINtSHINsTAWlABBREVIATION MARK ABOVEδBE"
      ++ "LOW"),
    (0x10aeb, "aMANICHAEAN NUMBER ONEsFIVEsTENtWENTYsONE HUNDREDlPUNCTUATION STARxFLEURONxDOUBLE DO"
      ++ "T WITHIN DOTzT WITHIN DOTαxTWO DOTSxLINE FILLER"),
    (0x10b00, "aAVESTAN LETTER AqAqOqAOqNqANqErEpEqEpOqOpIqIpUqUpKEpXEqYEqVEpGEqGEqHEpCEpJEpTEqHEpD"
      ++ "EqHEpTTEpPEpFEpBEqHEpNGErYErVEqEqYEqNEpMEpHMEpYYEqEpVEpREpLEpSEpZEpSHEpZHEpSHYEqSHEp"
      ++ "HE"),
    (0x10b39, "aAVESTAN ABBREVIATION MARKaTINY TWO DOTS OVER ONE DOT PUNCTUATIONaSMALL TWO DOTS OVE"
      ++ "R ONE DOT PUNCTUATIONaLARGE TWO DOTS OVER ONE DOT PUNCTUATIONgONE DOT OVER TWO DOTS "
      ++ "PUNCTUATIONgTWO RINGS OVER ONE RING PUNCTUATIONgONE RING OVER TWO RINGS PUNCTUATIONa"
      ++ "INSCRIPTIONAL PARTHIAN LETTER ALEPHεBETHεGIMELεDALETHεHEεWAWεZAYINεHETHεTETHεYODHεKA"
      ++ "PHεLAMEDHεMEMεNUNεSAMEKHεAYINεPEεSADHEεQOPHεRESHεSHINεTAW"),
    (0x10b58, "aINSCRIPTIONAL PARTHIAN NUMBER ONEεTWOζHREEεFOURεTENζWENTYεONE HUNDREDιTHOUSANDqHLAV"
      ++ "I LETTER ALEPHδBETHδGIMELδDALETHδHEδWAW-AYIN-RESHδZAYINδHETHδTETHδYODHδKAPHδLAMEDHδM"
      ++ "EM-QOPHδNUNδSAMEKHδPEδSADHEεHINδTAW"),
    (0x10b78, "aINSCRIPTIONAL PAHLAVI NUMBER ONEδTWOεHREEδFOURδTENεWENTYδONE HUNDREDθTHOUSANDaPSALT"
      ++ "ER PAHLAVI LETTER ALEPHxBETHxGIMELxDALETHxHExWAW-AYIN-RESHxZAYINxHETHxYODHxKAPHxLAME"
      ++ "DHxMEM-QOPHxNUNxSAMEKHxPExSADHEyHINxTAW"),
    (0x10b99, "aPSALTER PAHLAVI SECTION MARKqTURNED SECTION MARKqFOUR DOTS WITH CROSSζDOT"),
    (0x10ba9, "aPSALTER PAHLAVI NUMBER ONExTWOyHREExFOURxTENyWENTYxONE HUNDRED"),
    (0x10c00, "aOLD TURKIC LETTER ORKHON AsYENISEI AβEsORKHON IsYENISEI IαEsORKHON OαEsYENISEI OEsO"
      ++ "RKHON ABsYENISEI ABsORKHON AEBsYENISEI AEBsORKHON AGsYENISEI AGsORKHON AEGsYENISEI A"
      ++ "EGsORKHON ADsYENISEI ADsORKHON AEDzEZsYENISEI EZsORKHON AYsYENISEI AYsORKHON AEYsYEN"
      ++ "ISEI AEYsORKHON AEKsYENISEI AEKsORKHON OEKsYENISEI OEKsORKHON ALsYENISEI ALsORKHON A"
      ++ "ELzELTαMzANαENsYENISEI AENsORKHON ENTsYENISEI ENTsORKHON ENCsYENISEI ENCsORKHON ENYs"
      ++ "YENISEI ENYαANGsORKHON ENGsYENISEI AENGsORKHON EPzOPzICzECsYENISEI ECsORKHON AQsYENI"
      ++ "SEI AQsORKHON IQsYENISEI IQsORKHON OQsYENISEI OQsORKHON ARsYENISEI ARsORKHON AERαSαE"
      ++ "SαSH"),
    (0x10c40, "aOLD TURKIC LETTER YENISEI ASHsORKHON ESHsYENISEI ESHsORKHON ATsYENISEI ATsORKHON AE"
      ++ "TsYENISEI AETsORKHON OTzBASH"),
    (0x10c80, "aOLD HUNGARIAN CAPITAL LETTER AεAδEBδAMBδECεNCεCSεDδANDδEδCLOSE EδEEεFεGζYεHδIεIδEJε"
      ++ "KδAKδUNKδELζYεMεNζYδOεOδNIKOLSBURG OEδRUDIMENTA OEδOEEδEPεMPεRδSHORT ERδESζZεTεNTεTY"
      ++ "εCHδUεUδNIKOLSBURG UEδRUDIMENTA UEδEVεZζSεNT-SHAPED SIGNδUS"),
    (0x10cc0, "aOLD HUNGARIAN SMALL LETTER AγAβEBβAMBβECγNCγCSγDβANDβEβCLOSE EβEEγFγGδYγHβIγIβEJγKβ"
      ++ "AKβUNKβELδYγMγNδYβOγOβNIKOLSBURG OEβRUDIMENTA OEβOEEβEPγMPγRβSHORT ERβESδZγTγNTγTYγC"
      ++ "HβUγUβNIKOLSBURG UEβRUDIMENTA UEβEVγZδSγNT-SHAPED SIGNβUS"),
    (0x10cfa, "aOLD HUNGARIAN NUMBER ONEvFIVEvTENvFIFTYvONE HUNDREDzTHOUSANDaHANIFI ROHINGYA LETTER"
      ++ " AxBAxPAxTAyTAxJAxCAxHAxKHAxFAxDAyDAxRAyRAxZAxSAyHAxKAxGAxLAxMAxNAxWAxKINNA WAxYAxKI"
      ++ "NNA YAxNGAyYAxVAqVOWEL AwIwUwEwOqMARK SAKINvNA KHONNAqSIGN HARBAHAYvTAHALAxNAxSSI"),
    (0x10d30, "aHANIFI ROHINGYA DIGIT ZEROwONEwTWOxHREEwFOURxIVEwSIXxEVENwEIGHTwNINE"),
    (0x10e60, "aRUMI DIGIT ONElTWOmHREElFOURmIVElSIXmEVENlEIGHTlNINEfNUMBER TENnWENTYnHIRTYmFORTYnI"
      ++ "FTYmSIXTYnEVENTYmEIGHTYmNINETYmONE HUNDREDmTWO HUNDREDnHREE HUNDREDmFOUR HUNDREDnIVE"
      ++ " HUNDREDmSIX HUNDREDnEVEN HUNDREDmEIGHT HUNDREDmNINE HUNDREDfFRACTION ONE HALFsQUART"
      ++ "ERsTHIRDoTWO THIRDS"),
    (0x10e80, "aYEZIDI LETTER ELIFoBEoPEpHEoTHEoSEoCIMpHIMqHIMoHHAoXAoDALoZALoRApHAoZAoJAoSINpHINpA"
      ++ "DoDADoTAoZEoEYNoXHEYNoFAoVAq ALTERNATE FORMoQAFoKAFpHAFoGAFoLAMoMIMoNUNoUMoWAWoOWoEW"
      ++ "oHAYoYOToET"),
    (0x10eab, "aYEZIDI COMBINING HAMZA MARKrMADDA MARKhHYPHENATION MARK"),
    (0x10eb0, "aYEZIDI LETTER LAM WITH DOT ABOVEoYOT WITH CIRCUMFLEX ABOVE"),
    (0x10f00, "aOLD SOGDIAN LETTER ALEPHtFINAL ALEPHtBETHtFINAL BETHtGIMELtHEtFINAL HEtWAWtZAYINtHE"
      ++ "THtYODHtKAPHtLAMEDHtMEMtNUNtFINAL NUNγ WITH VERTICAL TAILtSAMEKHtAYINuLTERNATE AYINt"
      ++ "PEtSADHEtFINAL SADHEε WITH VERTICAL TAILtRESH-AYIN-DALETHtSHINtTAWtFINAL TAWγ WITH V"
      ++ "ERTICAL TAILmNUMBER ONEtTWOuHREEtFOURuIVEtTENuWENTYuHIRTYtONE HUNDREDmFRACTION ONE H"
      ++ "ALFmLIGATURE AYIN-DALETH"),
    (0x10f30, "aSOGDIAN LETTER ALEPHpBETHpGIMELpHEpWAWpZAYINpHETHpYODHpKAPHpLAMEDHpMEMpNUNpSAMEKHpA"
      ++ "YINpPEpSADHEpRESH-AYINpSHINpTAWpFETHpLESHiINDEPENDENT SHINiCOMBINING DOT BELOWsTWO D"
      ++ "OTS BELOWsDOT ABOVEsTWO DOTS ABOVEsCURVE ABOVEyBELOWsHOOK ABOVExBELOWsLONG HOOK BELO"
      ++ "WsRESH BELOWsSTROKE BELOWiNUMBER ONEpTENqWENTYpONE HUNDREDiPUNCTUATION TWO VERTICAL "
      ++ "BARSμ WITH DOTSuCIRCLE WITH DOTuTWO CIRCLES WITH DOTSuHALF CIRCLE WITH DOT"),
    (0x10f70, "aOLD UYGHUR LETTER ALEPHsBETHsGIMEL-HETHsWAWsZAYINsFINAL HETHsYODHsKAPHsLAMEDHsMEMsN"
      ++ "UNsSAMEKHsPEsSADHEsRESHsSHINsTAWsLESHlCOMBINING DOT ABOVEzBELOWvTWO DOTS ABOVEεBELOW"
      ++ "lPUNCTUATION BARxTWO BARSβDOTSxFOUR DOTS"),
    (0x10fb0, "aCHORASMIAN LETTER ALEPHsSMALL ALEPHsBETHsGIMELsDALETHsHEsWAWsCURLED WAWsZAYINsHETHs"
      ++ "YODHsKAPHsLAMEDHsMEMsNUNsSAMEKHsAYINsPEsRESHsSHINsTAWlNUMBER ONEsTWOtHREEsFOURsTENtW"
      ++ "ENTYsONE HUNDRED"),
    (0x10fe0, "aELYMAIC LETTER ALEPHpBETHpGIMELpDALETHpHEpWAWpZAYINpHETHpTETHpYODHpKAPHpLAMEDHpMEMp"
      ++ "NUNpSAMEKHpAYINpPEpSADHEpQOPHpRESHpSHINpTAWjIGATURE ZAYIN-YODH"),
    (0x11000, "aBRAHMI SIGN CANDRABINDUmANUSVARAmVISARGAmJIHVAMULIYAmUPADHMANIYAhLETTER ApAoIpIoUpU"
      ++ "oVOCALIC RxRwLxLoEoAIoOoAUoKApHAoGApHAoNGAoCApHAoJApHAoNYAoTTAqHAoDDAqHAoNNAoTApHAoD"
      ++ "ApHAoNAoPApHAoBApHAoMAoYAoRAoLAoVAoSHApSApAoHAoLLAoOLD TAMIL LLLAyRRAyNNNAhVOWEL SIG"
      ++ "N AAsBHATTIPROLU AAsItIsUtUsVOCALIC RβR"),
    (0x11040, "aBRAHMI VOWEL SIGN VOCALIC LβLsEsAIsOsAUiIRAMAhDANDAiOUBLE DANDAhPUNCTUATION DOTvUBL"
      ++ "E DOTtLINEtCRESCENT BARtLOTUS"),
    (0x11052, "aBRAHMI NUMBER ONEoTWOpHREEoFOURpIVEoSIXpEVENoEIGHToNINEoTENpWENTYpHIRTYoFORTYpIFTYo"
      ++ "SIXTYpEVENTYoEIGHTYoNINETYoONE HUNDREDsTHOUSANDhDIGIT ZEROnONEnTWOoHREEnFOURoIVEnSIX"
      ++ "oEVENnEIGHTnNINEhSIGN OLD TAMIL VIRAMAhLETTER OLD TAMIL SHORT EεOhVOWEL SIGN OLD TAM"
      ++ "IL SHORT EιOhLETTER OLD TAMIL LLA"),
    (0x1107f, "aBRAHMI NUMBER JOINERaKAITHI SIGN CANDRABINDUmANUSVARAmVISARGAhLETTER ApAoIpIoUpUoEo"
      ++ "AIoOoAUoKApHAoGApHAoNGAoCApHAoJApHAoNYAoTTAqHAoDDAqDHAqHAoRHAoNNAoTApHAoDApHAoNAoPAp"
      ++ "HAoBApHAoMAoYAoRAoLAoVAoSHApSApAoHAhVOWEL SIGN AAsItIsUtUsEsAIsOsAUhSIGN VIRAMAmNUKT"
      ++ "AhABBREVIATION SIGNhENUMERATION SIGNhNUMBER SIGNhSECTION MARK"),
    (0x110bf, "aKAITHI DOUBLE SECTION MARKiANDAiOUBLE DANDAhVOWEL SIGN VOCALIC R"),
    (0x110cd, "aKAITHI NUMBER SIGN ABOVE"),
    (0x110d0, "aSORA SOMPENG LETTER SAHuTAHuBAHuCAHuDAHuGAHuMAHuNGAHuLAHuNAHuVAHuPAHuYAHuRAHuHAHuKA"
      ++ "HuJAHuNYAHuAHuEEHuIHuUHuOHuEHuMAE"),
    (0x110f0, "aSORA SOMPENG DIGIT ZEROtONEtTWOuHREEtFOURuIVEtSIXuEVENtEIGHTtNINE"),
    (0x11100, "aCHAKMA SIGN CANDRABINDUmANUSVARAmVISARGAhLETTER AAoIoUoEoKAApHAAoGAApHAAoNGAAoCAApH"
      ++ "AAoJAApHAAoNYAAoTTAAqHAAoDDAAqHAAoNNAAoTAApHAAoDAApHAAoNAAoPAApHAAoBAApHAAoMAAoYYAAp"
      ++ "AAoRAAoLAAoWAAoSAAoHAAhVOWEL SIGN AsItIsUtUsEsAIsOsAUsOIhO MARKhAU MARKhVIRAMAhMAAYY"
      ++ "AA"),
    (0x11136, "aCHAKMA DIGIT ZEROnONEnTWOoHREEnFOURoIVEnSIXoEVENnEIGHTnNINEhSECTION MARKhDANDAiOUBL"
      ++ "E DANDAhQUESTION MARKhLETTER LHAAhVOWEL SIGN AAsEIhLETTER VAA"),
    (0x11150, "aMAHAJANI LETTER AqIqUqEqOqKArHAqGArHAqCArHAqJArHAqNYAqTTAsHAqDDAsHAqNNAqTArHAqDArHA"
      ++ "qNAqPArHAqBArHAqMAqRAqLAqVAqSAqHAqRRAjSIGN NUKTAjABBREVIATION SIGNjSECTION MARKjLIGA"
      ++ "TURE SHRI"),
    (0x11180, "aSHARADA SIGN CANDRABINDUnANUSVARAnVISARGAiLETTER AqApIqIpUqUpVOCALIC RyRxLyLpEpAIpO"
      ++ "pAUpKAqHApGAqHApNGApCAqHApJAqHApNYApTTArHApDDArHApNNApTAqHApDAqHApNApPAqHApBAqHApMAp"
      ++ "YApRApLAqLApVApSHAqSAqApHAiVOWEL SIGN AAtIuItUuUtVOCALIC RγRβLγLtEtAItOtAU"),
    (0x111c0, "aSHARADA SIGN VIRAMAnAVAGRAHAnJIHVAMULIYAnUPADHMANIYAiOMiDANDAjOUBLE DANDAiABBREVIAT"
      ++ "ION SIGNiSEPARATORjANDHI MARKjIGN NUKTAiVOWEL MODIFIER MARKiEXTRA SHORT VOWEL MARKiS"
      ++ "UTRA MARKiVOWEL SIGN PRISHTHAMATRA EiSIGN INVERTED CANDRABINDUiDIGIT ZEROoONEoTWOpHR"
      ++ "EEoFOURpIVEoSIXpEVENoEIGHToNINEiEKAMiSIGN SIDDHAMiHEADSTROKEiCONTINUATION SIGNiSECTI"
      ++ "ON MARK-1v2"),
    (0x111e1, "aSINHALA ARCHAIC DIGIT ONEwTWOxHREEwFOURxIVEwSIXxEVENwEIGHTwNINEqNUMBER TENyWENTYyHI"
      ++ "RTYxFORTYyIFTYxSIXTYyEVENTYxEIGHTYxNINETYxONE HUNDREDβTHOUSAND"),
    (0x11200, "aKHOJKI LETTER ApAoIoUoEoAIoOoAUoKApHAoGApGApHAoNGAoCApHAoJApJA"),
    (0x11213, "aKHOJKI LETTER NYAoTTAqHAoDDAqHAoNNAoTApHAoDApDDApHAoNAoPApHAoBApBApHAoMAoYAoRAoLAoV"
      ++ "AoSAoHAoLLAhVOWEL SIGN AAsItIsUsEsAIsOsAUhSIGN ANUSVARAmVIRAMAmNUKTAmSHADDAhDANDAiOU"
      ++ "BLE DANDAhWORD SEPARATORhSECTION MARKhDOUBLE SECTION MARKhABBREVIATION SIGNhSIGN SUK"
      ++ "UN"),
    (0x11280, "aMULTANI LETTER ApIpUpEpKAqHApGA"),
    (0x11288, "aMULTANI LETTER GHA"),
    (0x1128a, "aMULTANI LETTER CAqHApJAqJA"),
    (0x1128f, "aMULTANI LETTER NYApTTArHApDDArDArHApNNApTAqHApDAqHApNApPAqHApBA"),
    (0x1129f, "aMULTANI LETTER BHApMApYApRApLApVApSApHApRRAqHAiSECTION MARK"),
    (0x112b0, "aKHUDAWADI LETTER AsArIsIrUsUrErAIrOrAUrKAsHArGAsGAsHArNGArCAsHArJAsJAsHArNYArTTAtHA"
      ++ "rDDAtDArRRArDDHArNNArTAsHArDAsHArNArPAsHArBAsBAsHArMArYArRArLArVArSHAsArHAkSIGN ANUS"
      ++ "VARAkVOWEL SIGN AAvIwIvUwUvEvAIvOvAUkSIGN NUKTApVIRAMA"),
    (0x112f0, "aKHUDAWADI DIGIT ZEROqONEqTWOrHREEqFOURrIVEqSIXrEVENqEIGHTqNINE"),
    (0x11300, "aGRANTHA SIGN COMBINING ANUSVARA ABOVEoANDRABINDUnANUSVARAnVISARGA"),
    (0x11305, "aGRANTHA LETTER AqApIqIpUqUpVOCALIC RxL"),
    (0x1130f, "aGRANTHA LETTER EEpAI"),
    (0x11313, "aGRANTHA LETTER OOpAUpKAqHApGAqHApNGApCAqHApJAqHApNYApTTArHApDDArHApNNApTAqHApDAqHAp"
      ++ "NA"),
    (0x1132a, "aGRANTHA LETTER PAqHApBAqHApMApYApRA"),
    (0x11332, "aGRANTHA LETTER LAqLA"),
    (0x11335, "aGRANTHA LETTER VApSHAqSAqApHA"),
    (0x1133b, "aCOMBINING BINDU BELOWaGRANTHA SIGN NUKTAnAVAGRAHAiVOWEL SIGN AAtIuItUuUtVOCALIC RγR"),
    (0x11347, "aGRANTHA VOWEL SIGN EEtAI"),
    (0x1134b, "aGRANTHA VOWEL SIGN OOtAUiSIGN VIRAMA"),
    (0x11350, "aGRANTHA OM"),
    (0x11357, "aGRANTHA AU LENGTH MARK"),
    (0x1135d, "aGRANTHA SIGN PLUTAiLETTER VEDIC ANUSVARAvDOUBLE ANUSVARAqOCALIC RRxLLiVOWEL SIGN VO"
      ++ "CALIC LγL"),
    (0x11366, "aCOMBINING GRANTHA DIGIT ZEROyONEyTWOzHREEyFOURzIVEySIX"),
    (0x11370, "aCOMBINING GRANTHA LETTER AzKAzNAzVIzPA"),
    (0x11400, "aNEWA LETTER AnAmInImUnUmVOCALIC RvRuLvLmEmAImOmAUmKAnHAmGAnHAmNGAoHAmCAnHAmJAnHAmNY"
      ++ "AoHAmTTAoHAmDDAoHAmNNAmTAnHAmDAnHAmNAnHAmPAnHAmBAnHAmMAnHAmYAmRAnHAmLAnHAmWAmSHAnSAn"
      ++ "AmHAfVOWEL SIGN AAqIrIqUrUqVOCALIC RzRyLzLqEqAI"),
    (0x11440, "aNEWA VOWEL SIGN OqAUfSIGN VIRAMAkCANDRABINDUkANUSVARAkVISARGAkNUKTAkAVAGRAHAkFINAL "
      ++ "ANUSVARAfOMfSIDDHIfDANDAgOUBLE DANDAfCOMMAfGAP FILLERfABBREVIATION SIGNfDIGIT ZEROlO"
      ++ "NElTWOmHREElFOURmIVElSIXmEVENlEIGHTlNINEgOUBLE COMMAfPLACEHOLDER MARK"),
    (0x1145d, "aNEWA INSERTION SIGNfSANDHI MARKfLETTER VEDIC ANUSVARAfSIGN JIHVAMULIYAkUPADHMANIYA"),
    (0x11480, "aTIRHUTA ANJIiLETTER AqApIqIpUqUpVOCALIC RyRxLyLpEpAIpOpAUpKAqHApGAqHApNGApCAqHApJAq"
      ++ "HApNYApTTArHApDDArHApNNApTAqHApDAqHApNApPAqHApBAqHApMApYApRApLApVApSHAqSAqApHAiVOWEL"
      ++ " SIGN AAtIuItUuUtVOCALIC RγRβLγLtEtSHORT EtAItOtSHORT OtAUiSIGN CANDRABINDU"),
    (0x114c0, "aTIRHUTA SIGN ANUSVARAnVISARGApRAMAnNUKTAnAVAGRAHAiGVANGiABBREVIATION SIGNiOM"),
    (0x114d0, "aTIRHUTA DIGIT ZEROoONEoTWOpHREEoFOURpIVEoSIXpEVENoEIGHToNINE"),
    (0x11580, "aSIDDHAM LETTER AqApIqIpUqUpVOCALIC RyRxLyLpEpAIpOpAUpKAqHApGAqHApNGApCAqHApJAqHApNY"
      ++ "ApTTArHApDDArHApNNApTAqHApDAqHApNApPAqHApBAqHApMApYApRApLApVApSHAqSAqApHAiVOWEL SIGN"
      ++ " AAtIuItUuUtVOCALIC RγR"),
    (0x115b8, "aSIDDHAM VOWEL SIGN EtAItOtAUiSIGN CANDRABINDUnANUSVARAnVISARGApRAMAnNUKTAnSIDDHAMiD"
      ++ "ANDAjOUBLE DANDAiSEPARATOR DOTsBARiREPETITION MARK-1y2y3iEND OF TEXT MARKiSECTION MA"
      ++ "RK WITH TRIDENT AND U-SHAPED ORNAMENTSνDOTTED CRESCENTSαRAYS AND DOTTED CRESCENTSρDO"
      ++ "UBLE CRESCENTSρTRIPLE CRESCENTSvDOUBLE RINGη WITH RAYSvWITH DOUBLE CRESCENTSαTRIPLE "
      ++ "CRESCENTSαQUADRUPLE CRESCENTSαSEPTUPLE CRESCENTSαCIRCLES AND RAYSνTWO ENCLOSURESνFOU"
      ++ "R ENCLOSURESiLETTER THREE-CIRCLE ALTERNATE IqWO-CIRCLE ALTERNATE IμIpALTERNATE UiVOW"
      ++ "EL SIGN ALTERNATE UεU"),
    (0x11600, "aMODI LETTER AnAmInImUnUmVOCALIC RvRuLvLmEmAImOmAUmKAnHAmGAnHAmNGAmCAnHAmJAnHAmNYAmT"
      ++ "TAoHAmDDAoHAmNNAmTAnHAmDAnHAmNAmPAnHAmBAnHAmMAmYAmRAmLAmVAmSHAnSAnAmHAmLLAfVOWEL SIG"
      ++ "N AAqIrIqUrUqVOCALIC RzRyLzLqEqAIqOqAUfSIGN ANUSVARAkVISARGAmRAMA"),
    (0x11640, "aMODI SIGN ARDHACANDRAfDANDAgOUBLE DANDAfABBREVIATION SIGNfSIGN HUVA"),
    (0x11650, "aMODI DIGIT ZEROlONElTWOmHREElFOURmIVElSIXmEVENlEIGHTlNINE"),
    (0x11660, "aMONGOLIAN BIRGA WITH ORNAMENTkROTATED BIRGAkDOUBLE BIRGA WITH ORNAMENTkTRIPLE BIRGA"
      ++ " WITH ORNAMENTkBIRGA WITH DOUBLE ORNAMENTkROTATED BIRGA WITH ORNAMENTδDOUBLE ORNAMEN"
      ++ "TkINVERTED BIRGAy WITH DOUBLE ORNAMENTkSWIRL BIRGAv WITH ORNAMENTβDOUBLE ORNAMENTkTU"
      ++ "RNED SWIRL BIRGA WITH DOUBLE ORNAMENT"),
    (0x11680, "aTAKRI LETTER AoAnIoInUoUnEnAInOnAUnKAoHAnGAoHAnNGAnCAoHAnJAoHAnNYAnTTApHAnDDApHAnNN"
      ++ "AnTAoHAnDAoHAnNAnPAoHAnBAoHAnMAnYAnRAnLAnVAnSHAoAnHAnRRAgSIGN ANUSVARAlVISARGAgVOWEL"
      ++ " SIGN AArIsIrUsUrErAIrOrAUgSIGN VIRAMAlNUKTAgLETTER ARCHAIC KHAgABBREVIATION SIGN"),
    (0x116c0, "aTAKRI DIGIT ZEROmONEmTWOnHREEmFOURnIVEmSIXnEVENmEIGHTmNINE"),
    (0x11700, "aAHOM LETTER KAnHAmNGAnAmTAmALTERNATE TAmPAnHAmBAmMAmJAmCHAmTHAmRAmLAmSAmNYAmHAmAmDA"
      ++ "nHAmGAmALTERNATE GAmGHAmBHAmJHAmALTERNATE BA"),
    (0x1171d, "aAHOM CONSONANT SIGN MEDIAL LAβRAβLIGATING RAfVOWEL SIGN ArAqIrIqUrUqEqAWqOqAIrMfSIG"
      ++ "N KILLER"),
    (0x11730, "aAHOM DIGIT ZEROlONElTWOmHREElFOURmIVElSIXmEVENlEIGHTlNINEfNUMBER TENnWENTYfSIGN SMA"
      ++ "LL SECTIONlECTIONkRULAIgYMBOL VIfLETTER CAmTTAoHAmDDAoHAmNNAmLLA"),
    (0x11800, "aDOGRA LETTER AoAnIoInUoUnEnAInOnAUnKAoHAnGAoHAnNGAnCAoHAnJAoHAnNYAnTTApHAnDDApHAnNN"
      ++ "AnTAoHAnDAoHAnNAnPAoHAnBAoHAnMAnYAnRAnLAnVAnSHAoSAoAnHAnRRAgVOWEL SIGN AArIsIrUsUrVO"
      ++ "CALIC RαRrErAIrOrAUgSIGN ANUSVARAlVISARGAnRAMAlNUKTAgABBREVIATION SIGN"),
    (0x118a0, "aWARANG CITI CAPITAL LETTER NGAAβAβWIβYUγAγOβIIβUUβEβOβANGβGAβKOβENYβYUJβUCβENNβODDβ"
      ++ "TTEβNUNGβDAβATγMβBUβPUβHIYOγOLOδRRγARβSSUUγIIβVIYOmSMALL LETTER NGAAzAzWIzYUαAαOzIIz"
      ++ "UUzEzOzANGzGAzKOzENYzYUJzUCzENNzODDzTTEzNUNGzDAzATαMzBUzPUzHIYOαOLOβRRαARzSSUUαIIzVI"
      ++ "YO"),
    (0x118e0, "aWARANG CITI DIGIT ZEROsONEsTWOtHREEsFOURtIVEsSIXtEVENsEIGHTsNINEmNUMBER TENuWENTYuH"
      ++ "IRTYtFORTYuIFTYtSIXTYuEVENTYtEIGHTYtNINETY"),
    (0x118ff, "aWARANG CITI OMaDIVES AKURU LETTER AuAtIuItUuUtE"),
    (0x11909, "aDIVES AKURU LETTER O"),
    (0x1190c, "aDIVES AKURU LETTER KAuHAtGAuHAtNGAtCAuHAtJA"),
    (0x11915, "aDIVES AKURU LETTER NYAtTTA"),
    (0x11918, "aDIVES AKURU LETTER DDAvHAtNNAtTAuHAtDAuHAtNAtPAuHAtBAuHAtMAtYAuYAtRAtLAtVAtSHAuSAuA"
      ++ "tHAtLLAtZAmVOWEL SIGN AAxIyIxUyUxE"),
    (0x11937, "aDIVES AKURU VOWEL SIGN AIxO"),
    (0x1193b, "aDIVES AKURU SIGN ANUSVARArCANDRABINDUrHALANTAmVIRAMAmPREFIXED NASAL SIGNmMEDIAL YAm"
      ++ "INITIAL RAmMEDIAL RAmSIGN NUKTAmDOUBLE DANDAmGAP FILLERmEND OF TEXT MARK"),
    (0x11950, "aDIVES AKURU DIGIT ZEROsONEsTWOtHREEsFOURtIVEsSIXtEVENsEIGHTsNINE"),
    (0x119a0, "aNANDINAGARI LETTER AuAtIuItUuUtVOCALIC RγR"),
    (0x119aa, "aNANDINAGARI LETTER EtAItOtAUtKAuHAtGAuHAtNGAtCAuHAtJAuHAtNYAtTTAvHAtDDAvHAtNNAtTAuH"
      ++ "AtDAuHAtNAtPAuHAtBAuHAtMAtYAtRAtLAtVAtSHAuSAuAtHAtLLAtRRAmVOWEL SIGN AAxIyIxUyUxVOCA"
      ++ "LIC RηR"),
    (0x119da, "aNANDINAGARI VOWEL SIGN ExAIxOxAUmSIGN ANUSVARArVISARGAtRAMArAVAGRAHArSIDDHAMmHEADST"
      ++ "ROKEmVOWEL SIGN PRISHTHAMATRA E"),
    (0x11a00, "aZANABAZAR SQUARE LETTER ArVOWEL SIGN IγUEδγEγOEδγAIδUγREVERSED IxLENGTH MARKrLETTER"
      ++ " KAzHAyGAzHAyNGAyCAzHAyJAyNYAyTTAαHAyDDAαHAyNNAyTAzHAyDAzHAyNAyPAzHAyBAzHAyMAyTSAαHA"
      ++ "yDZAαHAyZHAzAy-AyYAyRAyLAyVAySHAzSAzAyHAyKSSArFINAL CONSONANT MARKrSIGN VIRAMAwCANDR"
      ++ "ABINDUθ WITH ORNAMENTγ WITH ORNAMENTwANUSVARAwVISARGArCLUSTER-INITIAL LETTER RAzFINA"
      ++ "L LETTER YAνRAνLAνVArINITIAL HEAD MARK"),
    (0x11a40, "aZANABAZAR SQUARE CLOSING HEAD MARKrMARK TSHEGwSHADwDOUBLE SHADwLONG TSHEGrINITIAL D"
      ++ "OUBLE-LINED HEAD MARKrCLOSING DOUBLE-LINED HEAD MARKrSUBJOINER"),
    (0x11a50, "aSOYOMBO LETTER AiVOWEL SIGN ItUEutEtOuEtAIuUtVOCALIC RβLoLENGTH MARKiLETTER KAqHApG"
      ++ "AqHApNGApCAqHApJAqHApNYApTTArHApDDArHApNNApTAqHApDAqHApNApPAqHApBAqHApMApTSArHApDZAp"
      ++ "ZHAqAp-ApYApRApLApVApSHAqSAqApHApKSSAiSIGN JIHVAMULIYAnUPADHMANIYAiCLUSTER-INITIAL L"
      ++ "ETTER RAζLAζSHAηAiFINAL CONSONANT SIGN GδKδNGδDδNδB"),
    (0x11a90, "aSOYOMBO FINAL CONSONANT SIGN MδRδLδSHεδ-AiSIGN ANUSVARAnVISARGAiGEMINATION MARKiSUB"
      ++ "JOINERiMARK TSHEGnSHADnDOUBLE SHADnPLUTAiHEAD MARK WITH MOON AND SUN AND TRIPLE FLAM"
      ++ "EοFLAMEκiTERMINAL MARK-1w2"),
    (0x11ab0, "aCANADIAN SYLLABICS NATTILIK HIεIδOεOδAεAγSHRIηIζOηOζAηAtSPEvIvOvAaPAU CIN HAU LETTE"
      ++ "R PAtKAtLAtMAtDAtZAtVAtNGAtHAtGAtKHAtSAtBAtCAtTAuHAtNAtPHAtRAtFAtCHAtAtEtItOtUuAtIAt"
      ++ "FINAL PzKzTzMzNzLzWzNGzYmRISING TONE LONGxmSANDHI GLOTTAL STOPmRISING TONE LONG FINA"
      ++ "LyFINALmSANDHI GLOTTAL STOP FINALtTONE LONGxx LONG FINALyFINALmMID-LEVEL TONE"),
    (0x11af0, "aPAU CIN HAU GLOTTAL STOP VARIANTmMID-LEVEL TONE LONG FINALβFINALmLOW-FALLING TONE L"
      ++ "ONGγmGLOTTAL STOPmLOW-FALLING TONE LONG FINALδFINALmGLOTTAL STOP FINAL"),
    (0x11c00, "aBHAIKSUKI LETTER AsArIsIrUsUrVOCALIC RαRzL"),
    (0x11c0a, "aBHAIKSUKI LETTER ErAIrOrAUrKAsHArGAsHArNGArCAsHArJAsHArNYArTTAtHArDDAtHArNNArTAsHAr"
      ++ "DAsHArNArPAsHArBAsHArMArYArRArLArVArSHAsSAsArHAkVOWEL SIGN AAvIwIvUwUvVOCALIC RεRδL"),
    (0x11c38, "aBHAIKSUKI VOWEL SIGN EvAIvOvAUkSIGN CANDRABINDUpANUSVARApVISARGArRAMApAVAGRAHAkDAND"
      ++ "AlOUBLE DANDAkWORD SEPARATORkGAP FILLER-1v2"),
    (0x11c50, "aBHAIKSUKI DIGIT ZEROqONEqTWOrHREEqFOURrIVEqSIXrEVENqEIGHTqNINEkNUMBER ONErTWOsHREEr"
      ++ "FOURsIVErSIXsEVENrEIGHTrNINErTENsWENTYsHIRTYrFORTYsIFTYrSIXTYsEVENTYrEIGHTYrNINETYkH"
      ++ "UNDREDS UNIT MARK"),
    (0x11c70, "aMARCHEN HEAD MARKiMARK SHADiLETTER KAqHApGApNGApCAqHApJApNYApTAqHApDApNApPAqHApBApM"
      ++ "ApTSArHApDZApWApZHAqAp-ApYApRApLApSHAqApHApA"),
    (0x11c92, "aMARCHEN SUBJOINED LETTER KAαHAzGAzNGAzCAαHAzJAzNYAzTAαHAzDAzNAzPAαHAzBAzMAzTSAβHAzD"
      ++ "ZAzWAzZHAαA"),
    (0x11ca9, "aMARCHEN SUBJOINED LETTER YAzRAzLAzSHAαAzHAzAiVOWEL SIGN AAtItUtEtOiSIGN ANUSVARAnCA"
      ++ "NDRABINDU"),
    (0x11d00, "aMASARAM GONDI LETTER AwAvIwIvUwUvE"),
    (0x11d08, "aMASARAM GONDI LETTER AIvO"),
    (0x11d0b, "aMASARAM GONDI LETTER AUvKAwHAvGAwHAvNGAvCAwHAvJAwHAvNYAvTTAxHAvDDAxHAvNNAvTAwHAvDAw"
      ++ "HAvNAvPAwHAvBAwHAvMAvYAvRAvLAvVAvSHAwSAwAvHAvLLAvKSSAvJNYAvTRAoVOWEL SIGN AAzIαIzUαU"
      ++ "zVOCALIC R"),
    (0x11d3a, "aMASARAM GONDI VOWEL SIGN E"),
    (0x11d3c, "aMASARAM GONDI VOWEL SIGN AIzO"),
    (0x11d3f, "aMASARAM GONDI VOWEL SIGN AUoSIGN ANUSVARAtVISARGAtNUKTAtCANDRAtHALANTAoVIRAMAoREPHA"
      ++ "pA-KARA"),
    (0x11d50, "aMASARAM GONDI DIGIT ZEROuONEuTWOvHREEuFOURvIVEuSIXvEVENuEIGHTuNINE"),
    (0x11d60, "aGUNJALA GONDI LETTER AwAvIwIvUwU"),
    (0x11d67, "aGUNJALA GONDI LETTER EEvAI"),
    (0x11d6a, "aGUNJALA GONDI LETTER OOvAUvYAvVAvBAwHAvMAvKAwHAvTAwHAvLAvGAwHAvDAwHAvNAvCAwHAvTTAxH"
      ++ "AvLLAvJAwHAvDDAxHAvNGAvPAwHAvHAvRAvSAoVOWEL SIGN AAzIαIzUαU"),
    (0x11d90, "aGUNJALA GONDI VOWEL SIGN EEzAI"),
    (0x11d93, "aGUNJALA GONDI VOWEL SIGN OOzAUoSIGN ANUSVARAtVISARGAoVIRAMAoOM"),
    (0x11da0, "aGUNJALA GONDI DIGIT ZEROuONEuTWOvHREEuFOURvIVEuSIXvEVENuEIGHTuNINE"),
    (0x11ee0, "aMAKASAR LETTER KApGApNGApPApBApMApTApDApNApCApJApNYApYApRApLApVApSApAiANGKAiVOWEL S"
      ++ "IGN ItUtEtOiPASSIMBANGiEND OF SECTION"),
    (0x11fb0, "aLISU LETTER YHA"),
    (0x11fc0, "aTAMIL FRACTION ONE THREE-HUNDRED-AND-TWENTIETHtONE-HUNDRED-AND-SIXTIETHtEIGHTIETHtS"
      ++ "IXTY-FOURTHtFORTIETHtTHIRTY-SECONDpTHREE EIGHTIETHSvSIXTY-FOURTHSpONE TWENTIETHtSIXT"
      ++ "EENTH-1δ2tTENTHtEIGHTHpTHREE TWENTIETHSvSIXTEENTHSpONE FIFTHtQUARTERtHALF-1y2pTHREE "
      ++ "QUARTERSpDOWNSCALING FACTOR KIIZHgSIGN NELlCEVITUlAAZHAAKKUlUZHAKKUlMUUVUZHAKKUlKURU"
      ++ "NIlPATHAKKUlMUKKURUNIlKAACUlPANAMmONlVARAAKANlPAARAMlKUZHIlVELIgWET CULTIVATION SIGN"
      ++ "gDRY CULTIVATION SIGNgLAND SIGNgSALT PAN SIGNgTRADITIONAL CREDIT SIGNsNUMBER SIGNgCU"
      ++ "RRENT SIGNgAND ODD SIGNgSPENT SIGNgTOTAL SIGNgIN POSSESSION SIGNgSTARTING FROM SIGNh"
      ++ "IGN MUTHALIYAlVAKAIYARAA"),
    (0x11fff, "aTAMIL PUNCTUATION END OF TEXTaCUNEIFORM SIGN Aq TIMES AxBADxGAN2 TENUxHAxIGIxLAGAR "
      ++ "GUNUxMUSHxSAGq2qBr TIMES ASH2yDUN3 GUNUyGALαN2 TENUyHAyIGI GUNUzMINyLAGABySHESHyU PL"
      ++ "US U PLUS UsGUNUr2s TIMES BALAGzGAN2 TENUzME PLUS ENzSHA3zTAK4qDqKr TIMES ERIN2ySHIT"
      ++ "A PLUS GISHqLr TIMES ALyDIM2yGISHyHAyKAD3zIySHEyUSHrANrEPHqMARt TIMES SHEqNr OVER AN"
      ++ "sTHREE TIMESsPLUS NAGA OPPOSING AN PLUS NAGAγSQUAREDrSHEqPINqRADt TIMES KURrKABqSAL2"
      ++ "rHs ZIDA TENUtKABA TENUtOVER ASH TUG2 OVER TUG2 TUG2 OVER TUG2 PAPγOVER ASHλ CROSSIN"
      ++ "G ASH OVER ASH OVER ASHs2"),
    (0x1203f, "aCUNEIFORM SIGN ASHGABpBArDrG3rHAR2rLs OVER BALsAGrRsA2qIr TIMES AyGARyIGI GUNUqUr O"
      ++ "VER BU ABαUNsCROSSING BUrLUGu OVER BULUGrRs2pDArGs KISIM5 TIMES A PLUS MASHθMARηBALA"
      ++ "GθIηGAι PLUS MASHθIιR2θUDηHAηIRι PLUS LUηKAKηLAθUι PLUS MASH2ιMηNEηPAP PLUS PAPηSIηT"
      ++ "AK4ηU2 PLUS GIR2θSHrMrRsA3t4qIrBrMs TIMES SHEs2rNs KASKAL U GUNU DISHrSHqUr OVER DUs"
      ++ "GUNUsSHESHIGrB"),
    (0x1207f, "aCUNEIFORM SIGN DUB TIMES ESH2s2rGsUDrHrNs3t GUNUy GUNUs4rR2pEq TIMES PAPrOVER E NUN"
      ++ " OVER NUNq2r TIMES A PLUS HA PLUS DAyGARyMIySALzHEyUqDINqGIRqLqNr TIMES GAN2γ TENUyM"
      ++ "EsCROSSING ENsOPPOSING ENsSQUAREDqRENrIN2qSH2qZENt TIMES Aβ PLUS LALλ TIMES LALβNαBA"
      ++ "DαDUN3 GUNUκ GUNUαHAγ GUNUαIGI GUNUαKASKALη SQUAREDβU3αLAγL TIMES LALβIβUαU2βDpGAr G"
      ++ "UNUr2s TIMES A PLUS DA PLUS HAηHAηIGIαB2 TENU PLUS TABαNαSHγ2 PLUS GAL"),
    (0x120bf, "aCUNEIFORM SIGN GA2 TIMES BADβR PLUS RAαURγ PLUS RAzDAαIβM TIMES SHEαUBzELβ PLUS LAα"
      ++ "Nβ TIMES GAN2 TENUzGAN2 TENUβRαIβ4γ PLUS AβR2 PLUS SUzHA PLUS LU PLUS ESH2βLγ PLUS L"
      ++ "AαI PLUS LIαUB2zIGI GUNUαSH PLUS HU PLUS ASHzKAKβSKALαIDγ PLUS LALαU3 PLUS ANzLAzME "
      ++ "PLUS ENαIzNUNγ OVER NUNzPAzSALβRαHEγ PLUS TURβIDαUMzTAK4zUαDβ PLUS DUtOVER GA2rBAt C"
      ++ "ROSSING GABArDs OVER GAD GAR OVER GARrLs GAD OVER GAD GAR OVER GARsAMrMrNs2t TENUuOV"
      ++ "ER GAN2uCROSSING GAN2rRs3rSHANqESHTIN"),
    (0x120ff, "aCUNEIFORM SIGN GESHTIN TIMES KURqIr TIMES EyUsCROSSING GIr4s OVER GI4tCROSSING GI4r"
      ++ "DIMrR2t GUNUs3t TIMES A PLUS IGIαGAN2 TENUαIGIαLU PLUS IGIαPArSALsHt CROSSING GISHuT"
      ++ "IMES BADαTAK4vENUqUr CROSSING GUr2s TIMES KAKγ TIMES IGI GUNUzNUNzSAL PLUS TUG2tGUNU"
      ++ "rDs TIMES A PLUS KURzKURtOVER GUD LUGALrLrMs TIMES SHErRs7sUNtSHpHAr TENUsGUNUrLqIr "
      ++ "TIMES ASHβ2yBADyDISHyGADyKINyNUNySHEyUqUrB2t TIMES ANαHALαKASKALαLISHαUDrL2"),
    (0x1213f, "aCUNEIFORM SIGN Iq AqBqDIMt OVER IDIM BURεSQUAREDqGrIs DIBtRItOVER IGI SHIR OVER SHI"
      ++ "R UD OVER UDtGUNUqLr TIMES GAN2 TENUr2qMr TIMES TAK4sCROSSING IMsOPPOSING IMsSQUARED"
      ++ "rINqNqRqSHpKAr TIMES AzDα PLUS KU3zSH2yBADαLAGαRzIyERIN2zSH2yGAαLαN2 TENUαRβ PLUS SH"
      ++ "A3 PLUS AzIαR2αSH PLUS SARδCROSSING GISHzUαR7yIGIzMyKAKzIαDyLIzUyMEα PLUS DUηGIηTEzI"
      ++ "α PLUS NUNUZyNEzUNyPIyRUySA"),
    (0x1217f, "aCUNEIFORM SIGN KA TIMES SARzHAαEαIDαUzIGzUHURyTARyUz2zDzMUM TIMES PAzSHyZIr2s CROSS"
      ++ "ING KA2rBrD2s3s4s5t OVER KAD5rKs TIMES IGI GUNUrLs TIMES BADtCROSSING KALrM2s4rSKALv"
      ++ " LAGAB TIMES U OVER LAGAB TIMES UwOVER KASKAL LAGAB TIMES U OVER LAGAB TIMES UqESH2q"
      ++ "Ir TIMES BADyUzDrDrNrSALsHsIM5v OVER KISIM5qUr OVER HI TIMES ASH2 KU OVER HI TIMES A"
      ++ "SH2r3r4s VARIANT FORMr7rLs GUNUrNrRs OPPOSING KURrSHU2qWU318pLArGABu TIMES Aγ PLUS D"
      ++ "A PLUS HAιGARιLALγLγN"),
    (0x121bf, "aCUNEIFORM SIGN LAGAB TIMES ASH ZIDA TENUβBADγIβDARβENβGAδRγUDε PLUS GUDβHAδLγI TIME"
      ++ "S NUNβIGI GUNUγMδ PLUS HAκLUβKIδNγU3δLε PLUS HI PLUS AβLAGABγISHγUδLβMEδ PLUS ENγUSH"
      ++ "βNEβSHE PLUS SUMδITA PLUS GISH PLUS ERIN2σTENUδU2ζ PLUS SHU2γUMβTAGδK4γE PLUS A PLUS"
      ++ " SU PLUS NAβUγ PLUS AιU PLUS Uγ2 PLUS ASHγDγSHvSQUAREDtRu TIMES SHEε PLUS SUMvGUNUz "
      ++ "OVER LAGAR GUNU SHErHSHUrLs TIMES LALrMs TIMES KURγ PLUS RUqIrLrMMU2rSHqUr TIMES BAD"
      ++ "r2s TIMES AL"),
    (0x121ff, "aCUNEIFORM SIGN LU2 TIMES BADzESH2δ TENUzGAN2 TENUzHI TIMES BADzIMzKAD2γ3δ PLUS ASHα"
      ++ "IzLA PLUS ASHβGABzME PLUS ENzNEαUzSI PLUS ASHβK2 PLUS BUzTUG2uENUtCROSSING LU2tOPPOS"
      ++ "ING LU2tSQUAREDuHESHIGr3rGALu OVER LUGALwPPOSING LUGALvSHESHIGrHrLrMs OVER LUMβ GAR "
      ++ "OVER GARpMAr TIMES TAK4sGUNUr2rHrRrSHt2qErSqIrNqUr OVER MUrGs GUNUrNSUBrRGU2rSHt TIM"
      ++ "ES AαKURαZAuOVER MUSHδ TIMES A PLUS NAuCROSSING MUSHt3u TIMES Aγ PLUS DIβDIvGUNUpNA"),
    (0x1223f, "aCUNEIFORM SIGN NA2rGAt INVERTEDuTIMES SHU TENUuOPPOSING NAGAtRrM NUTILLUss2qEr TIME"
      ++ "S AyUDsSHESHIGqIr TIMES Er2rMs TIMES GAN2 TENUβR PLUS GAN2 TENUrNDA2v TIMES ANδSHζ P"
      ++ "LUS ASHγGUDγME PLUS GAN2 TENUγNEδUNγSHEζ PLUS A ANνSHο PLUS ASHγU2 PLUS ASHδSHrSAGqU"
      ++ "r11rNs LAGAR TIMES GARζMASHζSALι OVER NUN LAGAR TIMES SALζUSHtTENUtOVER NUNtCROSSING"
      ++ " NUNζ LAGAR OVER LAGARsUZu AB2 TIMES ASHGABζBIζDUGζGUDζIGI GUNUζKAD3ζLAζNEζSILA3ζU2v"
      ++ "KISIM5 TIMES BIλ UpPArDrNrPqESH2"),
    (0x1227f, "aCUNEIFORM SIGN PIr TIMES AzByBIzUyEyIzByUz2sCROSSING PIrRIGu TIMES KALβUDβZAvOPPOSI"
      ++ "NG PIRIGpRArBqIqUpSArG NUTILLUss TIMES AzDUβBzHAzKAKαURzLUMzMIzNUNzSALαHIDzTABzU2αBα"
      ++ "MαRαSHtOVER SAGtGUNUrLs LAGAB TIMES ASH2rNGA2rRqHAs3t TIMES AαBADαGISHαNEαSHU2αTURαU"
      ++ "β PLUS As6sB6sR2rEs HUtOVER SHE GAD OVER GAD GAR OVER GARγTAB OVER TAB GAR OVER GARs"
      ++ "G9"),
    (0x122bf, "aCUNEIFORM SIGN SHENsSHu2uLAMrIDt TIMES AαIMsMt TIMES AαBALβULUGαDINαGARαIGIδ GUNUαK"
      ++ "USHU2αLULαMUGαSALsNIGsRt TENUuOVER SHIR BUR OVER BURsTArUs OVER INVERTED SHUs2sBURqI"
      ++ "r GUNUrGs4t OVER SIG4 SHU2rK2rLA3qUr OVER SUrDs2rHURrMsASHrRs9pTAr ASTERISKsTIMES HI"
      ++ "yMIsGUNUrBs OVER TAB NI OVER NI DISH OVER DISHtSQUAREDrGs TIMES BIzGUDzSHEβUzTUG2zUD"
      ++ "rK4rRqEr GUNUqI"),
    (0x122ff, "aCUNEIFORM SIGN TI TENUrLrRs TIMES TAK4tOVER TIRβ GAD OVER GAD GAR OVER GARqUrG2rKrM"
      ++ "rRs OVER TUR ZA OVER ZApUq GUDrU UrOVER U PA OVER PA GAR OVER GARySUR OVER SURyU REV"
      ++ "ERSED OVER U REVERSEDq2qBqDr KUSHU2sTIMES BADyMIyU PLUS U PLUS Uξ GUNUsGUNUsSHESHIGz"
      ++ " TIMES BADrUGqMr TIMES LAGAByME PLUS DAySHA3yUrBINrUMt TIMES KASKALαPAqNr GUNUqRr CR"
      ++ "OSSING URsSHESHIGr2s TIMES A PLUS HAηNAαLzHAzNUNzU2β PLUS ASHθBIr4rIs3rUs TIMES AαSH"
      ++ "GABzBARzDUNzGAβLβN2 TENU"),
    (0x1233f, "aCUNEIFORM SIGN URU TIMES GARαUzHAzIGIαMαSHzKIzLUMzMINzPAzSHEαIG4zTUzU PLUS GUDαDαRU"
      ++ "DAsDAu TIMES UqSHs TIMES AzKUβRzTAK4sXs2sUMXqTUKIqZ3s TIMES KASKALrUpZAr TENUsSQUARE"
      ++ "D TIMES KURrGrMXqE2qIr OVER ZIr3rBs KABA TENUrGrZ2qUr5s TIMES ArBURrMpKAP ELAMITEpAB"
      ++ " TIMES NUNr2 TIMES AqMAR TIMES KUGpDAG KISIM5 TIMES U2 PLUS MASHs3qISH PLUS SHUqUB T"
      ++ "IMES SHEpEZEN TIMES GUDαSHEpGA2 TIMES AN PLUS KAK PLUS AαSH2qE22qIGpHUSHpKA TIMES AN"
      ++ "SHE"),
    (0x1237f, "aCUNEIFORM SIGN KA TIMES ASH3yGISHzUDyHI TIMES ASH2yLUMyPAySHULyTUyUR2pLAGAB TIMES G"
      ++ "IqU2 SHESHIG TIMES BADtTIMES ESH2 PLUS LALzSHUpMESHqUSH3 TIMES ZApNA4qINs9sDA2 TIMES"
      ++ " BALγGIqU11 ROTATED NINETY DEGREESpPESH2 ASTERISKqIR2pSAG TIMES IGI GUNUpTI2pUM TIME"
      ++ "S MEq U"),
    (0x12400, "aCUNEIFORM NUMERIC SIGN TWO ASHyHREE ASHxFOUR ASHyIVE ASHxSIX ASHyEVEN ASHxEIGHT ASH"
      ++ "xNINE ASHxTHREE DISHxFOUR DISHyIVE DISHxSIX DISHyEVEN DISHxEIGHT DISHxNINE DISHxFOUR"
      ++ " UyIVE UxSIX UyEVEN UxEIGHT UxNINE UxONE GESH2xTWO GESH2yHREE GESH2xFOUR GESH2yIVE G"
      ++ "ESH2xSIX GESH2yEVEN GESH2xEIGHT GESH2xNINE GESH2xONE GESHUxTWO GESHUyHREE GESHUxFOUR"
      ++ " GESHUyIVE GESHUxTWO SHAR2yHREE SHAR2ι VARIANT FORMxFOUR SHAR2yIVE SHAR2xSIX SHAR2yE"
      ++ "VEN SHAR2xEIGHT SHAR2xNINE SHAR2xONE SHARUxTWO SHARUyHREE SHARUι VARIANT FORMxFOUR S"
      ++ "HARUyIVE SHARUxSHAR2 TIMES GAL PLUS DISHτMINxONE BURUxTWO BURUyHREE BURUθ VARIANT FO"
      ++ "RMxFOUR BURUyIVE BURUxTHREE VARIANT FORM ESH16υ21xFOUR VARIANT FORM LIMMUφ4φ AχB"),
    (0x12440, "aCUNEIFORM NUMERIC SIGN SIX VARIANT FORM ASH9yEVEN VARIANT FORM IMIN3φ AχBxEIGHT VAR"
      ++ "IANT FORM USSUφ3xNINE VARIANT FORM ILIMMUχ3χ4χ AxTWO ASH TENUyHREE ASH TENUxFOUR ASH"
      ++ " TENUyIVE ASH TENUxSIX ASH TENUxONE BAN2xTWO BAN2yHREE BAN2xFOUR BAN2η VARIANT FORMy"
      ++ "IVE BAN2η VARIANT FORMxNIGIDAMINδESHxONE ESHE3xTWO ESHE3xONE THIRD DISHxTWO THIRDS D"
      ++ "ISHxFIVE SIXTHS DISHxONE THIRD VARIANT FORM AxTWO THIRDS VARIANT FORM AxONE EIGHTH A"
      ++ "SHβQUARTER ASHyLD ASSYRIAN ONE SIXTHοQUARTERyNE QUARTER GURβHALF GURxELAMITE ONE THI"
      ++ "RDζTWO THIRDSζFORTYηIFTYxFOUR U VARIANT FORMyIVE U VARIANT FORMxSIX U VARIANT FORMyE"
      ++ "VEN U VARIANT FORMxEIGHT U VARIANT FORMxNINE U VARIANT FORM"),
    (0x12470, "aCUNEIFORM PUNCTUATION SIGN OLD ASSYRIAN WORD DIVIDERβVERTICAL COLONβDIAGONAL COLONλ"
      ++ "TRICOLONλQUADCOLON"),
    (0x12480, "aCUNEIFORM SIGN AB TIMES NUN TENUySHU2qD TIMES ESH2pBAD TIMES DISH TENUrHAR2 TIMES A"
      ++ "B2γNIγZAqU OVER BU TIMES NA2pDA TIMES TAK4rG TIMES KURqIM TIMES IGIzU U Us2 TIMES UD"
      ++ "qUG TIMES ANSHEαSHγ AT LEFTzDINαUNzERIN2zGAαIβR2 GUNUβSHzHAαIzIGI GUNUzKASKALαURβSHU"
      ++ "2ζ PLUS KASKALzLAK-020βMγ TIMES KURαUH PLUS GISHzMASHαESαIzNIzPIzSHEαI GUNUpE2 TIMES"
      ++ " KURyPAPqRIN2 XqSH2 CROSSING ESH2qZEN SHESHIG TIMES ASHιHIιIGI GUNUιLAλLιMEλSιSUuTIM"
      ++ "ES SUpGA2 TIMES BAHAR2zDIM GUNUαUG TIMES IGI GUNUκKASKALzERENzGAβR PLUS DIιNEzHA PLU"
      ++ "S AzKUSHU2 PLUS KASKAL"),
    (0x124c0, "aCUNEIFORM SIGN GA2 TIMES LAMγ TIMES KURαUHzMUSHzNEβ PLUS E2θGIzSHIMzZIZ2rBA ROTATED"
      ++ " NINETY DEGREESqESHTIN TIMES UqISH TIMES GISH CROSSING GISHqU2 TIMES IGI GUNUrD PLUS"
      ++ " GISH TIMES TAK4pHA TENU GUNUqI TIMES ASH OVER HI TIMES ASHpKA TIMES BUyKAyU U UzRpL"
      ++ "AGAB TIMES ZU OVER ZUrK-003u21v5u30u50v1u62u79 OVER LAK-079 GUNUu80v1 OVER LAK-081u9"
      ++ "2t130u42t210v9u20v5v8u38u65v6t343v7v8u83v4u90t441v9w TIMES GUδIGIδPAP PLUS LU3νPAP P"
      ++ "LUS LU3δU2 PLUS BAu50v7u70u83u90v2v3v5t550"),
    (0x12500, "aCUNEIFORM SIGN LAK-608u17w TIMES ASHδBADδDUN3 GUNU GUNUδKU3δLAδTARεEδU2εDεRUDAu36u4"
      ++ "8w TIMES DUBδGAδIGIη GUNUδNIδPAP PLUS PAP PLUS LU3δSHESH PLUS KIδUDεRUDAt724u49qU2 G"
      ++ "UNU TIMES ASHtTIMES DISHzHALzPAPγ PLUS PAP PLUS LU3zTAK4pMI PLUS ZA7qUSH OVER MUSH T"
      ++ "IMES GAλKAKpNINDA2 TIMES DIM GUNUγGISHδULγHIγKESH2γLAK-050γMASHγPAP PLUS PAPγUδ PLUS"
      ++ " UδRUDApSAG GUNU TIMES HAtTIMES ENzSHE AT LEFTzTAK4qHA6 TENUrE OVER SHEtPLUS HUB2yNA"
      ++ "M2ySARrU2 PLUS DUG TIMES NIzE2 TIMES ANqI TIMES TAK4pTAK4 PLUS SAGqUM TIMES GAN2 TEN"
      ++ "UzTHREE DISHpUR2 INVERTEDtTIMES UDrU TIMES DARA3zLAK-668"),
    (0x12540, "aCUNEIFORM SIGN URU TIMES LU3pZA7qU OVER ZU PLUS SARr5 TIMES THREE DISH TENU"),
    (0x12f90, "aCYPRO-MINOAN SIGN CM001w2w4w5w6w7w8w9v10w1w2xBw3w5w7w9v21w3w4w5w6w7w8w9v30w3w4w5w6w"
      ++ "7w8w9v40w1w4w6w7w9v50w1w2w3w4w5w6w8w9v60w1w2w3w4w6w7w8w9v70w1w2w3w4w5xBw6"),
    (0x12fd0, "aCYPRO-MINOAN SIGN CM078w9v80w1w2w3w4w5w6w7w8w9v90w1w2w4w5w6w7w8w9u100w1w2w3w4w5w7w8"
      ++ "w9v10w2w4u301w2")
  ]

end ApiBridge.Text
