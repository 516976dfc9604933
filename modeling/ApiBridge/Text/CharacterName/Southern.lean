/-!
# Names of characters: southern

Letters and marks of the scripts of Southern and Eastern Asia, Africa and America. A run starts at a code point; a
name starts with a mark for how much it shares with the one before.
-/

namespace ApiBridge.Text

/-- The names of these characters, in runs. -/
def southernNames : List (Nat × String) :=
  [
    (0x0918, "aDEVANAGARI LETTER GHAsNGAsCAtHAsJAtHAsNYAsTTAuHAsDDAuHAsNNAsTAtHAsDAtHAsNAtNNAsPAtH"
      ++ "AsBAtHAsMAsYAsRAtRAsLAtLAuLAsVAsSHAtSAtAsHAlVOWEL SIGN OExOElSIGN NUKTAqAVAGRAHAlVOW"
      ++ "EL SIGN AAwIxIwUxUwVOCALIC RζRwCANDRA EwSHORT EwEwAIwCANDRA OwSHORT OwOwAUlSIGN VIRA"
      ++ "MAlVOWEL SIGN PRISHTHAMATRA EwAWlOMlSTRESS SIGN UDATTAxANUDATTAlGRAVE ACCENTlACUTE A"
      ++ "CCENTlVOWEL SIGN CANDRA LONG EwUExUE"),
    (0x0958, "aDEVANAGARI LETTER QAsKHHAsGHHAsZAsDDDHAsRHAsFAsYYAsVOCALIC RRαLLlVOWEL SIGN VOCALIC"
      ++ " LζLlDANDAmOUBLE DANDAmIGIT ZEROrONErTWOsHREErFOURsIVErSIXsEVENrEIGHTrNINElABBREVIAT"
      ++ "ION SIGNlSIGN HIGH SPACING DOTlLETTER CANDRA AsOEtOEsAWsUEtUEsMARWARI DDAsZHAsHEAVY "
      ++ "YAsGGAsJJAsGLOTTAL STOPsDDDAsBBAaBENGALI ANJIiSIGN CANDRABINDUnANUSVARAnVISARGA"),
    (0x0985, "aBENGALI LETTER AqApIqIpUqUpVOCALIC RxL"),
    (0x098f, "aBENGALI LETTER EpAI"),
    (0x0993, "aBENGALI LETTER OpAUpKAqHApGAqHApNGApCAqHApJAqHApNYApTTArHApDDArHApNNApTAqHApDAqHApN"
      ++ "A"),
    (0x09aa, "aBENGALI LETTER PAqHApBAqHApMApYApRA"),
    (0x09b2, "aBENGALI LETTER LA"),
    (0x09b6, "aBENGALI LETTER SHAqSAqApHA"),
    (0x09bc, "aBENGALI SIGN NUKTAnAVAGRAHAiVOWEL SIGN AAtIuItUuUtVOCALIC RγR"),
    (0x09c7, "aBENGALI VOWEL SIGN EtAI"),
    (0x09cb, "aBENGALI VOWEL SIGN OtAUiSIGN VIRAMAiLETTER KHANDA TA"),
    (0x09d7, "aBENGALI AU LENGTH MARK"),
    (0x09dc, "aBENGALI LETTER RRAqHA"),
    (0x09df, "aBENGALI LETTER YYApVOCALIC RRxLLiVOWEL SIGN VOCALIC LγL"),
    (0x09e6, "aBENGALI DIGIT ZEROoONEoTWOpHREEoFOURpIVEoSIXpEVENoEIGHToNINEiLETTER RA WITH MIDDLE "
      ++ "DIAGONALxLOWER DIAGONALiRUPEE MARKoSIGNiCURRENCY NUMERATOR ONEβTWOγHREEβFOURβONE LES"
      ++ "S THAN THE DENOMINATORrDENOMINATOR SIXTEENiISSHARiGANDA MARKiLETTER VEDIC ANUSVARAiA"
      ++ "BBREVIATION SIGNiSANDHI MARK"),
    (0x0a01, "aGURMUKHI SIGN ADAK BINDIoBINDIoVISARGA"),
    (0x0a05, "aGURMUKHI LETTER ArAqIrIqUrU"),
    (0x0a0f, "aGURMUKHI LETTER EEqAI"),
    (0x0a13, "aGURMUKHI LETTER OOqAUqKArHAqGArHAqNGAqCArHAqJArHAqNYAqTTAsHAqDDAsHAqNNAqTArHAqDArHA"
      ++ "qNA"),
    (0x0a2a, "aGURMUKHI LETTER PArHAqBArHAqMAqYAqRA"),
    (0x0a32, "aGURMUKHI LETTER LArLA"),
    (0x0a35, "aGURMUKHI LETTER VAqSHA"),
    (0x0a38, "aGURMUKHI LETTER SAqHA"),
    (0x0a3c, "aGURMUKHI SIGN NUKTA"),
    (0x0a3e, "aGURMUKHI VOWEL SIGN AAuIvIuUvU"),
    (0x0a47, "aGURMUKHI VOWEL SIGN EEuAI"),
    (0x0a4b, "aGURMUKHI VOWEL SIGN OOuAUjSIGN VIRAMA"),
    (0x0a51, "aGURMUKHI SIGN UDAAT"),
    (0x0a59, "aGURMUKHI LETTER KHHAqGHHAqZAqRRA"),
    (0x0a5e, "aGURMUKHI LETTER FA"),
    (0x0a66, "aGURMUKHI DIGIT ZEROpONEpTWOqHREEpFOURqIVEpSIXqEVENpEIGHTpNINEjTIPPIjADDAKjIRIjURAjE"
      ++ "K ONKARjSIGN YAKASHjABBREVIATION SIGN"),
    (0x0a81, "aGUJARATI SIGN CANDRABINDUoANUSVARAoVISARGA"),
    (0x0a85, "aGUJARATI LETTER ArAqIrIqUrUqVOCALIC RyLjVOWEL CANDRA E"),
    (0x0a8f, "aGUJARATI LETTER EqAIjVOWEL CANDRA O"),
    (0x0a93, "aGUJARATI LETTER OqAUqKArHAqGArHAqNGAqCArHAqJArHAqNYAqTTAsHAqDDAsHAqNNAqTArHAqDArHAq"
      ++ "NA"),
    (0x0aaa, "aGUJARATI LETTER PArHAqBArHAqMAqYAqRA"),
    (0x0ab2, "aGUJARATI LETTER LArLA"),
    (0x0ab5, "aGUJARATI LETTER VAqSHArSArAqHA"),
    (0x0abc, "aGUJARATI SIGN NUKTAoAVAGRAHAjVOWEL SIGN AAuIvIuUvUuVOCALIC RδRuCANDRA E"),
    (0x0ac7, "aGUJARATI VOWEL SIGN EuAIuCANDRA O"),
    (0x0acb, "aGUJARATI VOWEL SIGN OuAUjSIGN VIRAMA"),
    (0x0ad0, "aGUJARATI OM"),
    (0x0ae0, "aGUJARATI LETTER VOCALIC RRyLLjVOWEL SIGN VOCALIC LδL"),
    (0x0ae6, "aGUJARATI DIGIT ZEROpONEpTWOqHREEpFOURqIVEpSIXqEVENpEIGHTpNINEjABBREVIATION SIGNjRUP"
      ++ "EE SIGN"),
    (0x0af9, "aGUJARATI LETTER ZHAjSIGN SUKUNpHADDAoMADDAHoTHREE-DOT NUKTA ABOVEoCIRCLE NUKTA ABOV"
      ++ "EoTWO-CIRCLE NUKTA ABOVE"),
    (0x0b01, "aORIYA SIGN CANDRABINDUlANUSVARAlVISARGA"),
    (0x0b05, "aORIYA LETTER AoAnIoInUoUnVOCALIC RvL"),
    (0x0b0f, "aORIYA LETTER EnAI"),
    (0x0b13, "aORIYA LETTER OnAUnKAoHAnGAoHAnNGAnCAoHAnJAoHAnNYAnTTApHAnDDApHAnNNAnTAoHAnDAoHAnNA"),
    (0x0b2a, "aORIYA LETTER PAoHAnBAoHAnMAnYAnRA"),
    (0x0b32, "aORIYA LETTER LAoLA"),
    (0x0b35, "aORIYA LETTER VAnSHAoSAoAnHA"),
    (0x0b3c, "aORIYA SIGN NUKTAlAVAGRAHAgVOWEL SIGN AArIsIrUsUrVOCALIC RαR"),
    (0x0b47, "aORIYA VOWEL SIGN ErAI"),
    (0x0b4b, "aORIYA VOWEL SIGN OrAUgSIGN VIRAMA"),
    (0x0b55, "aORIYA SIGN OVERLINEgAI LENGTH MARKhU LENGTH MARK"),
    (0x0b5c, "aORIYA LETTER RRAoHA"),
    (0x0b5f, "aORIYA LETTER YYAnVOCALIC RRvLLgVOWEL SIGN VOCALIC LαL"),
    (0x0b66, "aORIYA DIGIT ZEROmONEmTWOnHREEmFOURnIVEmSIXnEVENmEIGHTmNINEgISSHARgLETTER WAgFRACTIO"
      ++ "N ONE QUARTERtHALFpTHREE QUARTERSpONE SIXTEENTHtEIGHTHpTHREE SIXTEENTHS"),
    (0x0b82, "aTAMIL SIGN ANUSVARAlVISARGA"),
    (0x0b85, "aTAMIL LETTER AoAnIoInUoU"),
    (0x0b8e, "aTAMIL LETTER EoEnAI"),
    (0x0b92, "aTAMIL LETTER OoOnAUnKA"),
    (0x0b99, "aTAMIL LETTER NGAnCA"),
    (0x0b9c, "aTAMIL LETTER JA"),
    (0x0b9e, "aTAMIL LETTER NYAnTTA"),
    (0x0ba3, "aTAMIL LETTER NNAnTA"),
    (0x0ba8, "aTAMIL LETTER NAoNNAnPA"),
    (0x0bae, "aTAMIL LETTER MAnYAnRAoRAnLAoLApLAnVAnSHAoSAoAnHA"),
    (0x0bbe, "aTAMIL VOWEL SIGN AArIsIrUsU"),
    (0x0bc6, "aTAMIL VOWEL SIGN EsErAI"),
    (0x0bca, "aTAMIL VOWEL SIGN OsOrAUgSIGN VIRAMA"),
    (0x0bd0, "aTAMIL OM"),
    (0x0bd7, "aTAMIL AU LENGTH MARK"),
    (0x0be6, "aTAMIL DIGIT ZEROmONEmTWOnHREEmFOURnIVEmSIXnEVENmEIGHTmNINEgNUMBER TENnONE HUNDREDrT"
      ++ "HOUSANDgDAY SIGNgMONTH SIGNgYEAR SIGNgDEBIT SIGNgCREDIT SIGNgAS ABOVE SIGNgRUPEE SIG"
      ++ "NgNUMBER SIGN"),
    (0x0c00, "aTELUGU SIGN COMBINING CANDRABINDU ABOVEnANDRABINDUmANUSVARAmVISARGAmCOMBINING ANUSV"
      ++ "ARA ABOVEhLETTER ApAoIpIoUpUoVOCALIC RwL"),
    (0x0c0e, "aTELUGU LETTER EpEoAI"),
    (0x0c12, "aTELUGU LETTER OpOoAUoKApHAoGApHAoNGAoCApHAoJApHAoNYAoTTAqHAoDDAqHAoNNAoTApHAoDApHAo"
      ++ "NA"),
    (0x0c2a, "aTELUGU LETTER PApHAoBApHAoMAoYAoRApRAoLApLAqLAoVAoSHApSApAoHA"),
    (0x0c3c, "aTELUGU SIGN NUKTAmAVAGRAHAhVOWEL SIGN AAsItIsUtUsVOCALIC RβR"),
    (0x0c46, "aTELUGU VOWEL SIGN EtEsAI"),
    (0x0c4a, "aTELUGU VOWEL SIGN OtOsAUhSIGN VIRAMA"),
    (0x0c55, "aTELUGU LENGTH MARKhAI LENGTH MARK"),
    (0x0c58, "aTELUGU LETTER TSAoDZAoRRRA"),
    (0x0c5d, "aTELUGU LETTER NAKAARA POLLU"),
    (0x0c60, "aTELUGU LETTER VOCALIC RRwLLhVOWEL SIGN VOCALIC LβL"),
    (0x0c66, "aTELUGU DIGIT ZEROnONEnTWOoHREEnFOURoIVEnSIXoEVENnEIGHTnNINE"),
    (0x0c77, "aTELUGU SIGN SIDDHAMhFRACTION DIGIT ZERO FOR ODD POWERS OF FOURwONE FOR ODD POWERS O"
      ++ "F FOURwTWO FOR ODD POWERS OF FOURxHREE FOR ODD POWERS OF FOURwONE FOR EVEN POWERS OF"
      ++ " FOURwTWO FOR EVEN POWERS OF FOURxHREE FOR EVEN POWERS OF FOURhSIGN TUUMUaKANNADA SI"
      ++ "GN SPACING CANDRABINDUnCANDRABINDUnANUSVARAnVISARGAnSIDDHAMiLETTER AqApIqIpUqUpVOCAL"
      ++ "IC RxL"),
    (0x0c8e, "aKANNADA LETTER EqEpAI"),
    (0x0c92, "aKANNADA LETTER OqOpAUpKAqHApGAqHApNGApCAqHApJAqHApNYApTTArHApDDArHApNNApTAqHApDAqHA"
      ++ "pNA"),
    (0x0caa, "aKANNADA LETTER PAqHApBAqHApMApYApRAqRApLAqLA"),
    (0x0cb5, "aKANNADA LETTER VApSHAqSAqApHA"),
    (0x0cbc, "aKANNADA SIGN NUKTAnAVAGRAHAiVOWEL SIGN AAtIuItUuUtVOCALIC RγR"),
    (0x0cc6, "aKANNADA VOWEL SIGN EuEtAI"),
    (0x0cca, "aKANNADA VOWEL SIGN OuOtAUiSIGN VIRAMA"),
    (0x0cd5, "aKANNADA LENGTH MARKiAI LENGTH MARK"),
    (0x0cdd, "aKANNADA LETTER NAKAARA POLLUpFA"),
    (0x0ce0, "aKANNADA LETTER VOCALIC RRxLLiVOWEL SIGN VOCALIC LγL"),
    (0x0ce6, "aKANNADA DIGIT ZEROoONEoTWOpHREEoFOURpIVEoSIXpEVENoEIGHToNINE"),
    (0x0cf1, "aKANNADA SIGN JIHVAMULIYAnUPADHMANIYA"),
    (0x0d00, "aMALAYALAM SIGN COMBINING ANUSVARA ABOVEqANDRABINDUpANUSVARApVISARGAkLETTER VEDIC AN"
      ++ "USVARArAsArIsIrUsUrVOCALIC RzL"),
    (0x0d0e, "aMALAYALAM LETTER EsErAI"),
    (0x0d12, "aMALAYALAM LETTER OsOrAUrKAsHArGAsHArNGArCAsHArJAsHArNYArTTAtHArDDAtHArNNArTAsHArDAs"
      ++ "HArNAsNNArPAsHArBAsHArMArYArRAsRArLAsLAtLArVArSHAsSAsArHArTTTAkSIGN VERTICAL BAR VIR"
      ++ "AMApCIRCULAR VIRAMApAVAGRAHAkVOWEL SIGN AAvIwIvUwUvVOCALIC RεR"),
    (0x0d46, "aMALAYALAM VOWEL SIGN EwEvAI"),
    (0x0d4a, "aMALAYALAM VOWEL SIGN OwOvAUkSIGN VIRAMAkLETTER DOT REPHkSIGN PARA"),
    (0x0d54, "aMALAYALAM LETTER CHILLU MyYyLLLkAU LENGTH MARKkFRACTION ONE ONE-HUNDRED-AND-SIXTIET"
      ++ "HxFORTIETHtTHREE EIGHTIETHStONE TWENTIETHyENTHtTHREE TWENTIETHStONE FIFTHkLETTER ARC"
      ++ "HAIC IIrVOCALIC RRzLLkVOWEL SIGN VOCALIC LεL"),
    (0x0d66, "aMALAYALAM DIGIT ZEROqONEqTWOrHREEqFOURrIVEqSIXrEVENqEIGHTqNINEkNUMBER TENrONE HUNDR"
      ++ "EDvTHOUSANDkFRACTION ONE QUARTERxHALFtTHREE QUARTERStONE SIXTEENTHxEIGHTHtTHREE SIXT"
      ++ "EENTHSkDATE MARKkLETTER CHILLU NNzyRRyLzLyK"),
    (0x0d81, "aSINHALA SIGN CANDRABINDUnANUSVARAYAnVISARGAYA"),
    (0x0d85, "aSINHALA LETTER AYANNAqAYANNAqEYANNArEYANNApIYANNAqIYANNApUYANNAqUYANNApIRUYANNAsUYA"
      ++ "NNAqLUYANNAsUYANNApEYANNAqEYANNApAIYANNApOYANNAqOYANNApAUYANNA"),
    (0x0d9a, "aSINHALA LETTER ALPAPRAANA KAYANNApMAHAAPRAANA KAYANNApALPAPRAANA GAYANNApMAHAAPRAAN"
      ++ "A GAYANNApKANTAJA NAASIKYAYApSANYAKA GAYANNApALPAPRAANA CAYANNApMAHAAPRAANA CAYANNAp"
      ++ "ALPAPRAANA JAYANNApMAHAAPRAANA JAYANNApTAALUJA NAASIKYAYAxSANYOOGA NAAKSIKYAYApSANYA"
      ++ "KA JAYANNApALPAPRAANA TTAYANNApMAHAAPRAANA TTAYANNApALPAPRAANA DDAYANNApMAHAAPRAANA "
      ++ "DDAYANNAqUURDHAJA NAYANNApSANYAKA DDAYANNApALPAPRAANA TAYANNApMAHAAPRAANA TAYANNApAL"
      ++ "PAPRAANA DAYANNApMAHAAPRAANA DAYANNApDANTAJA NAYANNA"),
    (0x0db3, "aSINHALA LETTER SANYAKA DAYANNApALPAPRAANA PAYANNApMAHAAPRAANA PAYANNApALPAPRAANA BA"
      ++ "YANNApMAHAAPRAANA BAYANNArYANNApAMBA BAYANNApYAYANNApRAYANNA"),
    (0x0dbd, "aSINHALA LETTER DANTAJA LAYANNA"),
    (0x0dc0, "aSINHALA LETTER VAYANNApTAALUJA SAYANNApMUURDHAJA SAYANNApDANTAJA SAYANNApHAYANNApMU"
      ++ "URDHAJA LAYANNApFAYANNA"),
    (0x0dca, "aSINHALA SIGN AL-LAKUNA"),
    (0x0dcf, "aSINHALA VOWEL SIGN AELA-PILLAtKETTI AEDA-PILLAtDIGA AEDA-PILLAtKETTI IS-PILLAtDIGA "
      ++ "IS-PILLAtKETTI PAA-PILLA"),
    (0x0dd6, "aSINHALA VOWEL SIGN DIGA PAA-PILLA"),
    (0x0dd8, "aSINHALA VOWEL SIGN GAETTA-PILLAtKOMBUVAtDIGA KOMBUVAtKOMBU DEKAyVA HAA AELA-PILLAζD"
      ++ "IGA AELA-PILLAζGAYANUKITTAtGAYANUKITTA"),
    (0x0de6, "aSINHALA LITH DIGIT ZEROtONEtTWOuHREEtFOURuIVEtSIXuEVENtEIGHTtNINE"),
    (0x0df2, "aSINHALA VOWEL SIGN DIGA GAETTA-PILLAαYANUKITTAiPUNCTUATION KUNDDALIYA"),
    (0x0e01, "aTHAI CHARACTER KO KAIqHO KHAIvUATvWAIvONtRAKHANGpNGO NGUpCHO CHANvINGvANGpSO SOpCHO"
      ++ " CHOEpYO YINGpDO CHADApTO PATAKqHO THANtNANGMONTHOtPHUTHAOpNO NENpDO DEKpTO TAOqHO T"
      ++ "HUNGvAHANvONGpNO NUpBO BAIMAIpPO PLAqHO PHUNGpFO FApPHO PHANpFO FANpPHO SAMPHAOpMO M"
      ++ "ApYO YAKpRO RUAqUpLO LINGqUpWO WAENpSO SALAsRUSIsSUApHO HIPpLO CHULApO ANGpHO NOKHUK"
      ++ "pPAIYANNOIpSARA ApMAI HAN-AKATpSARA AAvMuIvIuUEwEvvUpPHINTHU"),
    (0x0e3f, "aTHAI CURRENCY SYMBOL BAHTgHARACTER SARA EuAEuOuAI MAIMUANβALAIpLAKKHANGYAOpMAIYAMOK"
      ++ "sTAIKHUs EKtTHOuRItCHATTAWApTHANTHAKHATpNIKHAHITpYAMAKKANpFONGMANfDIGIT ZEROlONElTWO"
      ++ "mHREElFOURmIVElSIXmEVENlEIGHTlNINEfCHARACTER ANGKHANKHUpKHOMUT"),
    (0x0e81, "aLAO LETTER KOmHO SUNG"),
    (0x0e84, "aLAO LETTER KHO TAM"),
    (0x0e86, "aLAO LETTER PALI GHAlNGOlCOlPALI CHAlSO TAM"),
    (0x0e8c, "aLAO LETTER PALI JHAlNYOlPALI NYAqTTAsHAqDDAsHAqNNAlDOlTOmHO SUNGpTAMlPALI DHAlNOlBO"
      ++ "lPOmHO SUNGlFO TAMlPHO TAMlFO SUNGlPALI BHAlMOlYOlLO LING"),
    (0x0ea5, "aLAO LETTER LO LOOT"),
    (0x0ea7, "aLAO LETTER WOlSANSKRIT SHAvSAmO SUNGlHO SUNGlPALI LLAlOlHO TAMeELLIPSISeVOWEL SIGN "
      ++ "ApMAI KANpAAqMpIqIpYqYpUqUeSIGN PALI VIRAMAeVOWEL SIGN MAI KONeSEMIVOWEL SIGN LOtNYO"),
    (0x0ec0, "aLAO VOWEL SIGN EqIpOpAYqI"),
    (0x0ec6, "aLAO KO LA"),
    (0x0ec8, "aLAO TONE MAI EKnTHOoInCATAWAeCANCELLATION MARKeNIGGAHITA"),
    (0x0ed0, "aLAO DIGIT ZEROkONEkTWOlHREEkFOURlIVEkSIXlEVENkEIGHTkNINE"),
    (0x0edc, "aLAO HO NOhMOeLETTER KHMU GOqNYO"),
    (0x0f00, "aTIBETAN SYLLABLE OMiMARK GTER YIG MGO TRUNCATED Aα-UM RNAM BCAD MAεGTER TSHEG MAnIN"
      ++ "ITIAL YIG MGO MDUN MAnCLOSING YIG MGO SGAB MAoARET YIG MGO PHUR SHAD MAnYIG MGO TSHE"
      ++ "G SHAD MAnSBRUL SHADnBSKUR YIG MGOoKA- SHOG YIG MGOnINTERSYLLABIC TSHEGnDELIMITER TS"
      ++ "HEG BSTARnSHADnNYIS SHADnTSHEG SHADnNYIS TSHEG SHADnRIN CHEN SPUNGS SHADoGYA GRAM SH"
      ++ "ADnCARET -DZUD RTAGS ME LONG CANnGTER TSHEGiLOGOTYPE SIGN CHAD RTAGSwLHAG RTAGSiASTR"
      ++ "OLOGICAL SIGN SGRA GCAN -CHAR RTAGSα-KHYUD PAαSDONG TSHUGSiSIGN RDEL DKAR GCIGyNYISy"
      ++ "SUMsNAG GCIGxNYISsDKAR RDEL NAGiDIGIT ZEROoONEoTWOpHREEoFOURpIVEoSIXpEVENoEIGHToNINE"
      ++ "oHALF ONEtTWOuHREEtFOURuIVEtSIXuEVENtEIGHTtNINEtZEROiMARK BSDUS RTAGSnNGAS BZUNG NYI"
      ++ " ZLAnCARET -DZUD RTAGS BZHI MIG CANnNGAS BZUNG SGOR RTAGSnCHE MGOnTSA -PHRUnGUG RTAG"
      ++ "S GYONzASnANG KHANG GYONzASiSIGN YAR TSHESnMAR TSHES"),
    (0x0f40, "aTIBETAN LETTER KAqHApGAqHApNGApCAqHApJA"),
    (0x0f49, "aTIBETAN LETTER NYApTTArHApDDArHApNNApTAqHApDAqHApNApPAqHApBAqHApMApTSArHApDZArHApWA"
      ++ "pZHAqAp-ApYApRApLApSHAqSAqApHApApKSSApFIXED-FORM RApKKApRRA"),
    (0x0f71, "aTIBETAN VOWEL SIGN AAtIuItUuUtVOCALIC RγRβLγLtEuEtOuOiSIGN RJES SU NGA ROoNAM BCADi"
      ++ "VOWEL SIGN REVERSED IδIiSIGN NYI ZLA NAA DAnSNA LDANiMARK HALANTAnPALUTAiSIGN LCI RT"
      ++ "AGSnYANG RTAGSnLCE TSA CANnMCHU CANnGRU CAN RGYINGSrMED RGYINGSnINVERTED MCHU CANjUB"
      ++ "JOINED SIGN LCE TSA CANxMCHU CANxINVERTED MCHU CANsLETTER KAαHAzGAαHAzNGAzCAαHAzJA"),
    (0x0f99, "aTIBETAN SUBJOINED LETTER NYAzTTAβHAzDDAβHAzNNAzTAαHAzDAαHAzNAzPAαHAzBAαHAzMAzTSAβHA"
      ++ "zDZAβHAzWAzZHAαAz-AzYAzRAzLAzSHAαSAαAzHAzAzKSSAzFIXED-FORM WAλYAλRA"),
    (0x0fbe, "aTIBETAN KU RU KHAr BZHI MIG CANiCANTILLATION SIGN HEAVY BEATαLIGHT BEATαCANG TE-UαS"
      ++ "BUB -CHALiSYMBOL DRIL BUpRDO RJEpPADMA GDANpRDO RJE RGYA GRAMpPHUR PApNOR BUv NYIS -"
      ++ "KHYILwGSUM -KHYILwBZHI -KHYIL"),
    (0x0fce, "aTIBETAN SIGN RDEL NAG RDEL DKARwGSUMiMARK BSKA- SHOG GI MGO RGYANnMNYAM YIG GI MGO "
      ++ "RGYANnNYIS TSHEGnINITIAL BRDA RNYING YIG MGO MDUN MAnCLOSING BRDA RNYING YIG MGO SGA"
      ++ "B MAaRIGHT-FACING SVASTI SIGNaLEFT-FACING SVASTI SIGNaRIGHT-FACING SVASTI SIGN WITH "
      ++ "DOTSaLEFT-FACING SVASTI SIGN WITH DOTSaTIBETAN MARK LEADING MCHAN RTAGSnTRAILING MCH"
      ++ "AN RTAGS"),
    (0x1000, "aMYANMAR LETTER KAqHApGAqHApNGApCAqHApJAqHApNYAqNYApTTArHApDDArHApNNApTAqHApDAqHApNA"
      ++ "pPAqHApBAqHApMApYApRApLApWApSApHApLLApApSHAN ApIqIpUqUpEpMON EpOpAUiVOWEL SIGN TALL "
      ++ "AAtAAtIuItUuUtEtAItMON IIxOtE ABOVEiSIGN ANUSVARAnDOT BELOWnVISARGApRAMAnASATiCONSON"
      ++ "ANT SIGN MEDIAL YAεRAεWAεHAiLETTER GREAT SA"),
    (0x1040, "aMYANMAR DIGIT ZEROoONEoTWOpHREEoFOURpIVEoSIXpEVENoEIGHToNINEiSIGN LITTLE SECTIONnSE"
      ++ "CTIONjYMBOL LOCATIVEpCOMPLETEDpAFOREMENTIONEDpGENITIVEiLETTER SHAqSApVOCALIC RyRxLyL"
      ++ "iVOWEL SIGN VOCALIC RγRβLγLiLETTER MON NGAtJHAtBBAvEiCONSONANT SIGN MON MEDIAL NAιMA"
      ++ "ιLAiLETTER SGAW KAREN SHAiVOWEL SIGN SGAW KAREN EUiTONE MARK SGAW KAREN HATHIδKE PHO"
      ++ "iLETTER WESTERN PWO KAREN THAθPWAiVOWEL SIGN WESTERN PWO KAREN EUμUEiSIGN WESTERN PW"
      ++ "O KAREN TONE-1λ2λ3λ4λ5iLETTER EASTERN PWO KAREN NNAθYWAθGHWAiVOWEL SIGN GEBA KAREN I"
      ++ "tKAYAH OEzUzEEiLETTER SHAN KAvHAuGAuCAuZAuNYAuDAuNAuPHAuFAuBA"),
    (0x1080, "aMYANMAR LETTER SHAN THAuHAiCONSONANT SIGN SHAN MEDIAL WAiVOWEL SIGN SHAN AAyEz ABOV"
      ++ "EyFINAL YiSIGN SHAN TONE-2x3x5x6sCOUNCIL TONE-2ζ3αEMPHATIC TONEiLETTER RUMAI PALAUNG"
      ++ " FAiSIGN RUMAI PALAUNG TONE-5jHAN DIGIT ZEROtONEtTWOuHREEtFOURuIVEtSIXuEVENtEIGHTtNI"
      ++ "NEjIGN KHAMTI TONE-1z3iVOWEL SIGN AITON AαIiSYMBOL SHAN ONEuEXCLAMATIONaGEORGIAN CAP"
      ++ "ITAL LETTER ANyBANyGANyDONyENyVINyZENyTANyINyKANyLASyMANyNARyONyPARyZHARyRAEySANyTAR"
      ++ "yUNyPHARyKHARyGHANyQARySHINyCHINzANyJILyCILzHARyXANyJHAN"),
    (0x10c0, "aGEORGIAN CAPITAL LETTER HAEzEzIEyWEyHARzOE"),
    (0x10c7, "aGEORGIAN CAPITAL LETTER YN"),
    (0x10cd, "aGEORGIAN CAPITAL LETTER AEN"),
    (0x10d0, "aGEORGIAN LETTER ANqBANqGANqDONqENqVINqZENqTANqINqKANqLASqMANqNARqONqPARqZHARqRAEqSA"
      ++ "NqTARqUNqPHARqKHARqGHANqQARqSHINqCHINrANqJILqCILrHARqXANqJHANqHAErErIEqWEqHARrOEqFIq"
      ++ "YNqELIFIqTURNED GANqAINjPARAGRAPH SEPARATORaMODIFIER LETTER GEORGIAN NARaGEORGIAN LE"
      ++ "TTER AENqHARD SIGNqLABIAL SIGNaHANGUL CHOSEONG KIYEOKqSSANGKIYEOKqNIEUNqTIKEUTqSSANG"
      ++ "TIKEUTqRIEULqMIEUMqPIEUPqSSANGPIEUPrIOSrSANGSIOSqIEUNGqCIEUCqSSANGCIEUCqCHIEUCHqKHIE"
      ++ "UKH"),
    (0x1110, "aHANGUL CHOSEONG THIEUTHqPHIEUPHqHIEUHqNIEUN-KIYEOKqSSANGNIEUNqNIEUN-TIKEUTwPIEUPqTI"
      ++ "KEUT-KIYEOKqRIEUL-NIEUNqSSANGRIEULqRIEUL-HIEUHqKAPYEOUNRIEULqMIEUM-PIEUPqKAPYEOUNMIE"
      ++ "UMqPIEUP-KIYEOKwNIEUNwTIKEUTwSIOSα-KIYEOKβTIKEUTβPIEUPxSANGSIOSxIOS-CIEUCwCIEUCxHIEU"
      ++ "CHwTHIEUTHwPHIEUPHqKAPYEOUNPIEUPySSANGPIEUPqSIOS-KIYEOKvNIEUNvTIKEUTvRIEULvMIEUMvPIE"
      ++ "UPα-KIYEOKvSSANGSIOSvIEUNGvCIEUCwHIEUCHvKHIEUKHvTHIEUTHvPHIEUPHvHIEUHqCHITUEUMSIOSzS"
      ++ "ANGSIOSrEONGCHIEUMSIOSγSANGSIOSqPANSIOSqIEUNG-KIYEOKwTIKEUTwMIEUMwPIEUPwSIOSwPANSIOS"
      ++ "qSSANGIEUNGqIEUNG-CIEUCxHIEUCHwTHIEUTHwPHIEUPHqYESIEUNGqCIEUC-IEUNGrHITUEUMCIEUCySSA"
      ++ "NGCIEUC"),
    (0x1150, "aHANGUL CHOSEONG CEONGCHIEUMCIEUCβSSANGCIEUCrHIEUCH-KHIEUKHyHIEUHtTUEUMCHIEUCHrEONGC"
      ++ "HIEUMCHIEUCHqPHIEUPH-PIEUPqKAPYEOUNPHIEUPHqSSANGHIEUHqYEORINHIEUHqKIYEOK-TIKEUTqNIEU"
      ++ "N-SIOSwCIEUCwHIEUHqTIKEUT-RIEULqFILLERhJUNGSEONG FILLERrAsErYAtErEOsrYEOtrOrWAtErOEr"
      ++ "YOrUrWEOtsIrYUrEUrYIrIrA-OtUrYA-OuYOrEO-OuUuEUrYEO-OvUrO-EOutYEtOtUrYO-YAwEvEOuOuIrU"
      ++ "-AuEtEO-EUtYEtUrYU-AuEO"),
    (0x1190, "aHANGUL JUNGSEONG YU-EuYEOwuUuIrEU-UuEUrYI-UrI-AtYAtOtUtEUtARAEArARAEAw-EOxUxIrSSANG"
      ++ "ARAEArA-EUrYA-UsEO-YArO-YAvEiONGSEONG KIYEOKrSSANGKIYEOKrKIYEOK-SIOSrNIEUNw-CIEUCxHI"
      ++ "EUHrTIKEUTrRIEULw-KIYEOKxMIEUMxPIEUPxSIOSxTHIEUTHxPHIEUPHxHIEUHrMIEUMrPIEUPw-SIOSrSI"
      ++ "OSsSANGSIOSrIEUNGrCIEUCsHIEUCHrKHIEUKHrTHIEUTHrPHIEUPHrHIEUHrKIYEOK-RIEULySIOS-KIYEO"
      ++ "KrNIEUN-KIYEOKxTIKEUTxSIOSxPANSIOSxTHIEUTHrTIKEUT-KIYEOKyRIEULrRIEUL-KIYEOK-SIOSxNIE"
      ++ "UNxTIKEUTδ-HIEUH"),
    (0x11d0, "aHANGUL JONGSEONG SSANGRIEULrRIEUL-MIEUM-KIYEOKδSIOSxPIEUP-SIOSδHIEUHxKAPYEOUNPIEUPx"
      ++ "SSANGSIOSxPANSIOSxKHIEUKHxYEORINHIEUHrMIEUM-KIYEOKxRIEULxPIEUPxSIOSySANGSIOSxPANSIOS"
      ++ "xCHIEUCHxHIEUHrKAPYEOUNMIEUMrPIEUP-RIEULxPHIEUPHxHIEUHrKAPYEOUNPIEUPrSIOS-KIYEOKwTIK"
      ++ "EUTwRIEULwPIEUPrPANSIOSrIEUNG-KIYEOKxSSANGKIYEOKrSSANGIEUNGrIEUNG-KHIEUKHrYESIEUNGz-"
      ++ "SIOSαPANSIOSrPHIEUPH-PIEUPrKAPYEOUNPHIEUPHrHIEUH-NIEUNxRIEULxMIEUMxPIEUPrYEORINHIEUH"
      ++ "rKIYEOK-NIEUNyPIEUPyCHIEUCHyKHIEUKHyHIEUHrSSANGNIEUNaETHIOPIC SYLLABLE HAtUtItAAtEEu"
      ++ "tOuAsLAtUtItAAtEEutOtWA"),
    (0x1210, "aETHIOPIC SYLLABLE HHAuUuIuAAuEEvuOuWAsMAtUtItAAtEEutOtWAsSZAuUuIuAAuEEvuOuWAsRAtUtI"
      ++ "tAAtEEutOtWAsSAtUtItAAtEEutOtWAtHAuUuIuAAuEEvuOuWAsQAtUtItAAtEEutOuAtWA"),
    (0x124a, "aETHIOPIC SYLLABLE QWIuAAuEEv"),
    (0x1250, "aETHIOPIC SYLLABLE QHAuUuIuAAuEEvuO"),
    (0x1258, "aETHIOPIC SYLLABLE QHWA"),
    (0x125a, "aETHIOPIC SYLLABLE QHWIvAAvEEw"),
    (0x1260, "aETHIOPIC SYLLABLE BAtUtItAAtEEutOtWAsVAtUtItAAtEEutOtWAsTAtUtItAAtEEutOtWAsCAtUtItA"
      ++ "AtEEutOtWAsXAtUtItAAtEEutOuAtWA"),
    (0x128a, "aETHIOPIC SYLLABLE XWIuAAuEEv"),
    (0x1290, "aETHIOPIC SYLLABLE NAtUtItAAtEEutOtWAtYAuUuIuAAuEEvuOuWAsGLOTTAL AαUαIαAAαEEβαOαWAsK"
      ++ "AtUtItAAtEEutOuAtWA"),
    (0x12b2, "aETHIOPIC SYLLABLE KWIuAAuEEv"),
    (0x12b8, "aETHIOPIC SYLLABLE KXAuUuIuAAuEEvuO"),
    (0x12c0, "aETHIOPIC SYLLABLE KXWA"),
    (0x12c2, "aETHIOPIC SYLLABLE KXWIvAAvEEw"),
    (0x12c8, "aETHIOPIC SYLLABLE WAtUtItAAtEEutOuAsPHARYNGEAL AδUδIδAAδEEεδO"),
    (0x12d8, "aETHIOPIC SYLLABLE ZAtUtItAAtEEutOtWAtHAuUuIuAAuEEvuOuWAsYAtUtItAAtEEutOuAsDAtUtItAA"
      ++ "tEEutOtWAtDAuUuIuAAuEEvuOuWAsJAtUtItAAtEEutOtWAsGAtUtItAAtEEutOuAtWA"),
    (0x1312, "aETHIOPIC SYLLABLE GWIuAAuEEv"),
    (0x1318, "aETHIOPIC SYLLABLE GGAuUuIuAAuEEvuOuWAAsTHAuUuIuAAuEEvuOuWAsCHAuUuIuAAuEEvuOuWAsPHAu"
      ++ "UuIuAAuEEvuOuWAsTSAuUuIuAAuEEvuOuWAtZAuUuIuAAuEEvuOvAsFAtUtItAAtEEutOtWAsPAtUtItAAtE"
      ++ "EutOtWA"),
    (0x1358, "aETHIOPIC SYLLABLE RYAsMYAsFYA"),
    (0x135d, "aETHIOPIC COMBINING GEMINATION AND VOWEL LENGTH MARKtVOWEL LENGTH MARKtGEMINATION MA"
      ++ "RKjSECTION MARKjWORDSPACEjFULL STOPjCOMMAjSEMICOLONjCOLONjPREFACE COLONjQUESTION MAR"
      ++ "KjPARAGRAPH SEPARATORjDIGIT ONEpTWOqHREEpFOURqIVEpSIXqEVENpEIGHTpNINEjNUMBER TENrWEN"
      ++ "TYrHIRTYqFORTYrIFTYqSIXTYrEVENTYqEIGHTYqNINETYqHUNDREDqTEN THOUSAND"),
    (0x1380, "aETHIOPIC SYLLABLE SEBATBEIT MWAsMWIuEEvsSEBATBEIT BWAsBWIuEEvsSEBATBEIT FWAsFWIuEEv"
      ++ "sSEBATBEIT PWAsPWIuEEvjTONAL MARK YIZETuDERETuRIKRIKuSHORT RIKRIKuDIFATuKENATuCHIRET"
      ++ "uHIDETuDERET-HIDETuKURT"),
    (0x13a0, "aCHEROKEE LETTER AqEqIqOqUqVqGAqKAqGErIrOrUrVqHArErIrOrUrVqLArErIrOrUrVqMArErIrOrUqN"
      ++ "AqHNAqNAHrErIrOrUrVqQUAsEsIsOsUsVqSArrErIrOrUrVqDAqTAqDEqTEqDIqTIqDOrUrVrLAqTLAsEsI"),
    (0x13e0, "aCHEROKEE LETTER TLOsUsVrSAsEsIsOsUsVqWArErIrOrUrVqYArErIrOrUrVqMV"),
    (0x13f8, "aCHEROKEE SMALL LETTER YExIxOxUxVwMV"),
    (0x1400, "aCANADIAN SYLLABICS HYPHENtEtAAItIuItOuOtY-CREE OOtCARRIER EEβItAuAtWEvST-CREE WEuIu"
      ++ "EST-CREE WIuIIuEST-CREE WIIuOuEST-CREE WOuOOuEST-CREE WOOtNASKAPI WOOtWAuEST-CREE WA"
      ++ "uAAuEST-CREE WAAtNASKAPI WAAtAItY-CREE WtGLOTTAL STOPtFINAL ACUTEzGRAVEzBOTTOM HALF "
      ++ "RINGzTOP HALF RINGzRIGHT HALF RINGβNGzDOUBLE ACUTEηSHORT VERTICAL STROKESzMIDDLE DOT"
      ++ "zSHORT HORIZONTAL STROKEzPLUSzDOWN TACKtENtINtONtANtPEuAAIuIvIuOvOtY-CREE POOtCARRIE"
      ++ "R HEEγItPAvAuWEtWEST-CREE PWEtPWItWEST-CREE PWItPWIItWEST-CREE PWII"),
    (0x1440, "aCANADIAN SYLLABICS PWOtWEST-CREE PWOtPWOOtWEST-CREE PWOOtPWAtWEST-CREE PWAtPWAAtWES"
      ++ "T-CREE PWAAtY-CREE PWAAtPtWEST-CREE PtCARRIER HtTEuAAIuIvIuOvOtY-CREE TOOtCARRIER DE"
      ++ "EγItTAvAuWEtWEST-CREE TWEtTWItWEST-CREE TWItTWIItWEST-CREE TWIItTWOtWEST-CREE TWOtTW"
      ++ "OOtWEST-CREE TWOOtTWAtWEST-CREE TWAtTWAAtWEST-CREE TWAAtNASKAPI TWAAtTuTEvIvOvAtKEuA"
      ++ "AIuIvIuOvOtY-CREE KOOtKAvAuWEtWEST-CREE KWEtKWItWEST-CREE KWItKWIItWEST-CREE KWIItKW"
      ++ "OtWEST-CREE KWOtKWOOtWEST-CREE KWOOtKWAtWEST-CREE KWA"),
    (0x1480, "aCANADIAN SYLLABICS KWAAtWEST-CREE KWAAtNASKAPI KWAAtKuWtSOUTH-SLAVEY KEHθIHθOHθAHtC"
      ++ "EuAAIuIvIuOvOtY-CREE COOtCAvAuWEtWEST-CREE CWEtCWItWEST-CREE CWItCWIItWEST-CREE CWII"
      ++ "tCWOtWEST-CREE CWOtCWOOtWEST-CREE CWOOtCWAtWEST-CREE CWAtCWAAtWEST-CREE CWAAtNASKAPI"
      ++ " CWAAtCtSAYISI THtMEuAAIuIvIuOvOtY-CREE MOOtMAvAuWEtWEST-CREE MWEtMWItWEST-CREE MWIt"
      ++ "MWIItWEST-CREE MWIItMWOtWEST-CREE MWOtMWOOtWEST-CREE MWOOtMWAtWEST-CREE MWAtMWAAtWES"
      ++ "T-CREE MWAAtNASKAPI MWAAtMtWEST-CREE MtMHtATHAPASCAN MtSAYISI M"),
    (0x14c0, "aCANADIAN SYLLABICS NEuAAIuIvIuOvOtY-CREE NOOtNAvAuWEtWEST-CREE NWEtNWAtWEST-CREE NW"
      ++ "AtNWAAtWEST-CREE NWAAtNASKAPI NWAAutCARRIER NGtNHtLEuAAIuIvIuOvOtY-CREE LOOtLAvAuWEt"
      ++ "WEST-CREE LWEtLWItWEST-CREE LWItLWIItWEST-CREE LWIItLWOtWEST-CREE LWOtLWOOtWEST-CREE"
      ++ " LWOOtLWAtWEST-CREE LWAtLWAAtWEST-CREE LWAAtLtWEST-CREE LtMEDIAL LtSEuAAIuIvIuOvOtY-"
      ++ "CREE SOOtSAvAuWEtWEST-CREE SWEtSWItWEST-CREE SWItSWIItWEST-CREE SWIItSWOtWEST-CREE S"
      ++ "WOtSWOOtWEST-CREE SWOO"),
    (0x1500, "aCANADIAN SYLLABICS SWAtWEST-CREE SWAtSWAAtWEST-CREE SWAAtNASKAPI SWAAtStATHAPASCAN "
      ++ "StSWtBLACKFOOT StMOOSE-CREE SKtNASKAPI SKWγ-WγPWAγTWAγKWAγCWAtSHEvIwIvOwOvAwAvWEtWES"
      ++ "T-CREE SHWEtSHWItWEST-CREE SHWItSHWIItWEST-CREE SHWIItSHWOtWEST-CREE SHWOtSHWOOtWEST"
      ++ "-CREE SHWOOtSHWAtWEST-CREE SHWAtSHWAAtWEST-CREE SHWAAtSHtYEuAAIuIvIuOvOu-CREE YOOuAv"
      ++ "AuWEtWEST-CREE YWEtYWItWEST-CREE YWItYWIItWEST-CREE YWIItYWOtWEST-CREE YWOtYWOOtWEST"
      ++ "-CREE YWOOtYWAtWEST-CREE YWAtYWAAtWEST-CREE YWAAtNASKAPI YWAAtYtBIBLE-CREE Y"),
    (0x1540, "aCANADIAN SYLLABICS WEST-CREE YtSAYISI YItREu-CREE REtWEST-CREE LEtRAAIuIvIuOvOtWEST"
      ++ "-CREE LOtRAvAtWEST-CREE LAtRWAAtWEST-CREE RWAAtRtWEST-CREE RtMEDIAL RtFEuAAIuIvIuOvO"
      ++ "uAvAuWAAtWEST-CREE FWAAtFtTHEtN-CREE THEtTHItN-CREE THItTHIItN-CREE THIItTHOwOvAwAvW"
      ++ "AAtWEST-CREE THWAAtTHuTHEwIwOwAwuYEvIvOvAtNUNAVIK HEγIδIγOδOγAδAγyUT HtHKtQAAIuI"),
    (0x1580, "aCANADIAN SYLLABICS QIIuOvOuAvAutTLHEwIwOwAtWEST-CREE REεIεOεAtNGAAIvIwIvOwOvAwAvuNG"
      ++ "tSAYISI SHEγIγOγAtWOODS-CREE THEηIηOηAηtLHIwIvOwOvAwAvtTH-CREE THEδIεIδOεOδAεAδtAIVI"
      ++ "LIK BtBLACKFOOT EδIδOδAδWEεIεOεAδNEεIεOεAδKEεIεOεA"),
    (0x15c0, "aCANADIAN SYLLABICS SAYISI HEβIβOβAtCARRIER GHUδOδEεEδIδAβRUγOγEδEγIγAβWUγOγEδEγIγAβ"
      ++ "HWUδOδEεEδIδAβTHUδOδEεEδIδAγTUδOδEεEδIδAβPUγOγEδEγIγAγβGUγOγEδEγIγAβKHUδOδEεEδIδAγKU"
      ++ "δOδEεEδI"),
    (0x1600, "aCANADIAN SYLLABICS CARRIER KKAδβNUγOγEδEγIγAβMUγOγEδEγIγAβYUγOγEδEγIγAβJUtSAYISI JU"
      ++ "tCARRIER JOγEδEγItSAYISI JItCARRIER JAγJUδOδEεEδIδAβLUγOγEδEγIγAβDLUδOδEεEδIδAβLHUδO"
      ++ "δEεEδIδAβTLHUεOεEζEεIεAδUδOδEεEδIδA"),
    (0x1640, "aCANADIAN SYLLABICS CARRIER ZUγOγEδEγIγAγβINITIAL ZβDZUδOδEεEδIδAβSUγOγEδEγIγAγHUδOδ"
      ++ "EεEδIδAδβTSUδOδEεEδIδAβCHUδOδEεEδIδAβTTSUεOεEζEεIεAuHI SIGNtFULL STOPtQAItNGAIuNGIxI"
      ++ "wOxOwAxAtWOODS-CREE THWEEθIιIθOιOθAιAεFINAL THtBLACKFOOT W"),
    (0x1680, "aOGHAM SPACE MARKgLETTER BEITHnLUISnFEARNnSAILnNIONnUATHnDAIRnTINNEnCOLLoEIRTnMUINnG"
      ++ "ORTnNGEADALnSTRAIFnRUISnAILMnONNnURnEADHADHnIODHADHnEABHADHnORnUILLEANNnIFINnEAMHANC"
      ++ "HOLLnPEITHgFEATHER MARKgREVERSED FEATHER MARK"),
    (0x16a0, "aRUNIC LETTER FEHU FEOH FE FnVnURUZ UR UnYRonWnTHURISAZ THURS THORNnETHnANSUZ AnOS O"
      ++ "nAC AoESCnLONG-BRANCH-OSS OnSHORT-TWIG-OSS OnOoEoNnRAIDO RAD REID RnKAUNAnCENnKAUN K"
      ++ "nGnENGnGEBO GYFU GoARnWUNJO WYNN WnHAGLAZ HpEGL HnLONG-BRANCH-HAGALL HnSHORT-TWIG-HA"
      ++ "GALL HnNAUDIZ NYD NAUD NnSHORT-TWIG-NAUD NnDOTTED-NnISAZ IS ISS InEnJERAN JnGERnLONG"
      ++ "-BRANCH-AR AEnSHORT-TWIG-AR AnIWAZ EOHnPERTHO PEORTH PnALGIZ EOLHXnSOWILO SoIGEL LON"
      ++ "G-BRANCH-SOL SoHORT-TWIG-SOL SnCnZnTIWAZ TIR TYR TnSHORT-TWIG-TYR TnDnBERKANAN BEORC"
      ++ " BJARKAN BnSHORT-TWIG-BJARKAN BnDOTTED-PnOPEN-PnEHWAZ EH EnMANNAZ MAN MnLONG-BRANCH-"
      ++ "MADR MnSHORT-TWIG-MADR MnLAUKAZ LAGU LOGR LnDOTTED-LnINGWAZqnDAGAZ DAEG DnOTHALAN ET"
      ++ "HEL O"),
    (0x16e0, "aRUNIC LETTER EARnIORnCWEORTHoALCoEALCnSTANnLONG-BRANCH-YRnSHORT-TWIG-YRnICELANDIC-Y"
      ++ "RnQnXgSINGLE PUNCTUATIONgMULTIPLE PUNCTUATIONgCROSS PUNCTUATIONgARLAUG SYMBOLgTVIMAD"
      ++ "UR SYMBOLgBELGTHOR SYMBOLgLETTER KnSHnOOnFRANKS CASKET OSβISβEHβACγESC"),
    (0x1700, "aTAGALOG LETTER ApIpUpKApGApNGApTApDApNApPApBApMApYApRApLApWApSApHAiVOWEL SIGN ItUiS"
      ++ "IGN VIRAMAnPAMUDPOD"),
    (0x171f, "aTAGALOG LETTER ARCHAIC RAaHANUNOO LETTER ApIpUpKApGApNGApTApDApNApPApBApMApYApRApLA"
      ++ "pWApSApHAiVOWEL SIGN ItUiSIGN PAMUDPODaPHILIPPINE SINGLE PUNCTUATIONlDOUBLE PUNCTUAT"
      ++ "ION"),
    (0x1740, "aBUHID LETTER AnInUnKAnGAnNGAnTAnDAnNAnPAnBAnMAnYAnRAnLAnWAnSAnHAgVOWEL SIGN IrU"),
    (0x1760, "aTAGBANWA LETTER AqIqUqKAqGAqNGAqTAqDAqNAqPAqBAqMAqYA"),
    (0x176e, "aTAGBANWA LETTER LAqWAqSA"),
    (0x1772, "aTAGBANWA VOWEL SIGN IuU"),
    (0x1780, "aKHMER LETTER KAoHAoOoHOnNGOnCAoHAoOoHOnNYOnDAnTTHAnDOnTTHOnNNOnTAoHAoOoHOnNOnBAnPHA"
      ++ "oOoHOnMOnYOnROnLOnVOnSHAoSOoAnHAnLAnQAgINDEPENDENT VOWEL QAQαAzIαIzUαKαUβVyRYαYyLYαY"
      ++ "yQEzAIzOO TYPE ONEθTWOzAUgVOWEL INHERENT AQwAmSIGN AArIsIrYsYrUsUsArOErYA"),
    (0x17c0, "aKHMER VOWEL SIGN IErErAEsIrOOrAUgSIGN NIKAHITlREAHMUKlYUUKALEAPINTUlMUUSIKATOANlTRI"
      ++ "ISAPlBANTOClROBATlTOANDAKHIATlKAKABATlAHSDAlSAMYOK SANNYAlVIRIAMlCOENGlBATHAMASATlKH"
      ++ "ANlBARIYOOSANlCAMNUC PII KUUHlLEK TOOlBEYYALlPHNAEK MUANlKOOMUUTgCURRENCY SYMBOL RIE"
      ++ "LgSIGN AVAKRAHASANYAmTTHACAN"),
    (0x17e0, "aKHMER DIGIT ZEROmONEmTWOnHREEmFOURnIVEmSIXnEVENmEIGHTmNINE"),
    (0x17f0, "aKHMER SYMBOL LEK ATTAK SONxMUOYxPIIxBEIyUONxPRAMβ-MUOYγPIIγBEIδUON"),
    (0x1800, "aMONGOLIAN BIRGAkELLIPSISkCOMMAkFULL STOPkCOLONkFOUR DOTSkTODO SOFT HYPHENkSIBE SYLL"
      ++ "ABLE BOUNDARY MARKERkMANCHU COMMArFULL STOPkNIRUGUkFREE VARIATION SELECTOR ONEιTWOκH"
      ++ "REEkVOWEL SEPARATORkFREE VARIATION SELECTOR FOURkDIGIT ZEROqONEqTWOrHREEqFOURrIVEqSI"
      ++ "XrEVENqEIGHTqNINE"),
    (0x1820, "aMONGOLIAN LETTER ArErIrOrUrOErUErEErNArANGrBArPArQArGArMArLArSAsHArTArDArCHArJArYAr"
      ++ "RArWArFArKAsHArTSArZArHAArZRArLHArZHIrCHIrTODO LONG VOWEL SIGNwEwIwOwUwOEwUEwANGwBAw"
      ++ "PAwQAwGAwMAwTAwDAwCHAwJAwTSAwYAwWAwKAwGAAwHAAwJIAwNIAwDZArSIBE EwIxY"),
    (0x1860, "aMONGOLIAN LETTER SIBE UExwANGwKAwGAwHAwPAwSHAwTAwDAwJAwFAwGAAwHAAwTSAwZAwRAAwCHAwZH"
      ++ "ArMANCHU IyKAyRAyFAyZHArCHA WITH TWO DOTS"),
    (0x1880, "aMONGOLIAN LETTER ALI GALI ANUSVARA ONEαVISARGA ONEαDAMARUαUBADAMAαINVERTED UBADAMAα"
      ++ "BALUDAαTHREE BALUDAαAαIαKAαNGAαCAαTTAγHAαDDAαNNAαTAαDAαPAβHAαSSAαZHAβAαAHrTODO ALI G"
      ++ "ALI TAζZHArMANCHU ALI GALI GHAθNGAθCAθJHAθTTAθDDHAθTAθDHAθSSAθCYAθZHAιArALI GALI HAL"
      ++ "F UζYArMANCHU ALI GALI BHArALI GALI DAGALGArMANCHU ALI GALI LHA"),
    (0x18b0, "aCANADIAN SYLLABICS OYtAYuAYtWAYtPOYuAYuWOYtTAYtKAYuWAYtMAYtNOYuAYtLAYtSOYuAYuHOYvAY"
      ++ "vWOYtYOYuAYtRAYtNWItOJIBWAY NWItNWIItOJIBWAY NWIItNWOtOJIBWAY NWOtNWOOtOJIBWAY NWOOt"
      ++ "RWEEvIwIvOwOvAtOJIBWAY PβTβKβCβMβNβSγHtEASTERN WtWESTERN WtFINAL SMALL RINGzRAISED D"
      ++ "OTtR-CREE RWEtWEST-CREE LOOεAAtTHWEwAuTHWEwOOwAAuLHWEwOOtSAYISI SHWEγOOαHOOtCARRIER "
      ++ "GWUβDENE GEEβGAA"),
    (0x18f0, "aCANADIAN SYLLABICS CARRIER GWAtSAYISI JUUtCARRIER JWAtBEAVER DENE LζRtCARRIER DENTA"
      ++ "L S"),
    (0x1900, "aLIMBU VOWEL-CARRIER LETTERgLETTER KAoHAnGAoHAnNGAnCAoHAnJAoHAnYANnTAoHAnDAoHAnNAnPA"
      ++ "oHAnBAoHAnMAnYAnRAnLAnWAnSHAoSAoAnHAnGYANnTRA"),
    (0x1920, "aLIMBU VOWEL SIGN ArIrUrEErAIrOOrAUrErOgSUBJOINED LETTER YAxRAxWA"),
    (0x1930, "aLIMBU SMALL LETTER KAtNGAtANUSVARAtTAtNAtPAtMAtRAtLAhIGN MUKPHRENGlKEMPHRENGlSA-I"),
    (0x1940, "aLIMBU SIGN LOO"),
    (0x1944, "aLIMBU EXCLAMATION MARKgQUESTION MARKgDIGIT ZEROmONEmTWOnHREEmFOURnIVEmSIXnEVENmEIGH"
      ++ "TmNINEaTAI LE LETTER KAoXAoNGAoTSAoSAoYAoTApHAoLAoPApHAoMAoFAoVAoHAoQAoKHAoTSHAoNAoA"
      ++ "oIoEEpHoUoOOpoUEoEoAUEpI"),
    (0x1970, "aTAI LE LETTER TONE-2t3t4t5t6"),
    (0x1980, "aNEW TAI LUE LETTER HIGH QAtLOW QAtHIGH KAyXAyNGAtLOW KAxXAxNGAtHIGH TSAySAyYAtLOW T"
      ++ "SAxSAxYAtHIGH TAzHAyNAtLOW TAyHAxNAtHIGH PAzHAyMAtLOW PAyHAxMAtHIGH FAyVAyLAtLOW FAx"
      ++ "VAxLAtHIGH HAyDAyBAtLOW HAxDAxBAtHIGH KVAyXVAtLOW KVAxXVAtHIGH SUAtLOW SUA"),
    (0x19b0, "aNEW TAI LUE VOWEL SIGN VOWEL SHORTENERxAAxIIxUyUxExAExOyAxUExAYyAYxUYxOYyAYxUEYxIYm"
      ++ "LETTER FINAL VzNGαzMzKzDzBmTONE MARK-1w2"),
    (0x19d0, "aNEW TAI LUE DIGIT ZEROsONEsTWOtHREEsFOURtIVEsSIXtEVENsEIGHTsNINEmTHAM DIGIT ONE"),
    (0x19de, "aNEW TAI LUE SIGN LAEuVaKHMER SYMBOL PATHAMASATnMUOY KOETnPII KOETnBEI KOEToUON KOET"
      ++ "nPRAM KOETr-MUOY KOETsPII KOETsBEI KOETtUON KOETnDAP KOETq-MUOY KOETrPII KOETrBEI KO"
      ++ "ETsUON KOETrPRAM KOETnTUTEYASATnMUOY ROCnPII ROCnBEI ROCoUON ROCnPRAM ROCr-MUOY ROCs"
      ++ "PII ROCsBEI ROCtUON ROCnDAP ROCq-MUOY ROCrPII ROCrBEI ROCsUON ROCrPRAM ROCaBUGINESE "
      ++ "LETTER KAqGAqNGAsKAqPAqBAqMArPAqTAqDAqNArRAqCAqJAqNYAsCAqYAqRAqLAqVAqSAqAqHAjVOWEL S"
      ++ "IGN IuUuEuOuAE"),
    (0x1a1e, "aBUGINESE PALLAWAjEND OF SECTIONaTAI THAM LETTER HIGH KAwHAwXAqLOW KAvXAvHAqNGAqHIGH"
      ++ " CAwHAqLOW CAuSAuCHAqNYAqRATAqHIGH RATHAqDAqLOW RATHAqRANAqHIGH TAwHAqLOW TAvHAqNAqB"
      ++ "AqHIGH PAwHAvFAqLOW PAuFAuPHAqMAqLOW YAqHIGH YAqRArUEqLArUEqWAqHIGH SHAwSAwAvHAqLLAq"
      ++ "AqLOW HAqIrIqUrUqEEqOOqLAEqGREAT SAjCONSONANT SIGN MEDIAL RAζLAyLA TANG LAIjSIGN MAI"
      ++ " KANG LAIjCONSONANT SIGN FINAL NGAyLOW PAyHIGH RATHA OR LOW PAyMAyBA"),
    (0x1a5e, "aTAI THAM CONSONANT SIGN SA"),
    (0x1a60, "aTAI THAM SIGN SAKOTjVOWEL SIGN AuMAI SATuAAuTALL AAuIvIuUEvUEvvUuOvA BELOWvYuEuAEuO"
      ++ "OuAIuTHAM AIuOA ABOVEjSIGN MAI KANGoTONE-1t2oKHUEN TONE-3z4z5oRA HAAMoMAI SAMoKHUEN-"
      ++ "LUE KARAN"),
    (0x1a7f, "aTAI THAM COMBINING CRYPTOGRAMMIC DOTjHORA DIGIT ZEROuONEuTWOvHREEuFOURvIVEuSIXvEVEN"
      ++ "uEIGHTuNINE"),
    (0x1a90, "aTAI THAM THAM DIGIT ZEROuONEuTWOvHREEuFOURvIVEuSIXvEVENuEIGHTuNINE"),
    (0x1aa0, "aTAI THAM SIGN WIANGtWAAKoSAWANoKEOWoHOYoDOKMAIoREVERSED ROTATED RANAoMAI YAMOKoKAAN"
      ++ "sKUUoSATKAANvKUUoHANGoCAANG"),
    (0x1ab0, "aCOMBINING DOUBLED CIRCUMFLEX ACCENTlIAERESIS-RINGkINFINITYkDOWNWARDS ARROWkTRIPLE D"
      ++ "OTkX-X BELOWkWIGGLY LINE BELOWkOPEN MARK BELOWkDOUBLE OPEN MARK BELOWkLIGHT CENTRALI"
      ++ "ZATION STROKE BELOWkSTRONG CENTRALIZATION STROKE BELOWkPARENTHESES ABOVEkDOUBLE PARE"
      ++ "NTHESES ABOVEkPARENTHESES BELOWwOVERLAYkLATIN SMALL LETTER W BELOWδTURNED W BELOWlEF"
      ++ "T PARENTHESIS ABOVE LEFTkRIGHT PARENTHESIS ABOVE RIGHTkLEFT PARENTHESIS BELOW LEFTkR"
      ++ "IGHT PARENTHESIS BELOW RIGHTkSQUARE BRACKETS ABOVEkNUMBER SIGN ABOVEkINVERTED DOUBLE"
      ++ " ARCH ABOVEkPLUS SIGN ABOVEkDOUBLE PLUS SIGN ABOVEβBELOWkTRIPLE ACUTE ACCENTkLATIN S"
      ++ "MALL LETTER INSULAR GμRμT"),
    (0x1b00, "aBALINESE SIGN ULU RICEMsCANDRAoCECEKoSURANGoBISAHjLETTER AKARAv TEDUNGqIKARAv TEDUN"
      ++ "GqUKARAv TEDUNGqRA REPAx TEDUNGqLA LENGAy TEDUNGqEKARAqAIKARAqOKARAv TEDUNGqKAs MAHA"
      ++ "PRANAqGAs GORAqNGAqCAs LACAqJAs JERAqNYAqTA LATIKtMURDA MAHAPRANAqDA MURDA ALPAPRANA"
      ++ "zMAHAPRANAqNA RAMBATqTAs TAWAqDAs MADUqNAqPAs KAPALqBAs KEMBANGqMAqYAqRAqLAqWAqSA SA"
      ++ "GAvPAsqHAjSIGN REREKANjVOWEL SIGN TEDUNGuULUx SARIuSUKUy ILUTuRA REPAβ TEDUNGuLA LEN"
      ++ "GAγ TEDUNGuTALINGα REPA"),
    (0x1b40, "aBALINESE VOWEL SIGN TALING TEDUNGβREPA TEDUNGuPEPETz TEDUNGjADEG ADEGjLETTER KAF SA"
      ++ "SAKrHOT SASAKqTZIR SASAKqEF SASAKqVE SASAKqZAL SASAKqASYURA SASAKrRCHAIC JNYA"),
    (0x1b50, "aBALINESE DIGIT ZEROpONEpTWOqHREEpFOURqIVEpSIXqEVENpEIGHTpNINEjPANTIlMADAjWINDUjCARI"
      ++ "K PAMUNGKAHpSIKIpPARERENjPAMENENGjMUSICAL SYMBOL DONGzENGzUNGzANGγ SURANGzINGzAENGzE"
      ++ "UNGzAINGαNG GEDEyCOMBINING TEGEHιENDEPιKEMPULνLIιJEGOGANιKEMPUL WITH JEGOGANνLI WITH"
      ++ " JEGOGANιBENDEιGONGyRIGHT-HAND OPEN DUGπAGκCLOSED TUKσAKyLEFT-HAND OPEN PANGοUNGιCLO"
      ++ "SED PLAKσUKιOPEN PINGjPANTI LANTANGlMADA LANTANG"),
    (0x1b80, "aSUNDANESE SIGN PANYECEKsGLAYARtWISADkLETTER ArIrUrAErOrEsUrKArQArGArNGArCArJArZArNY"
      ++ "ArTArDArNArPArFArVArBArMArYArRArLArWArSArXArHAkCONSONANT SIGN PAMINGKALβNYAKRAδIKUkV"
      ++ "OWEL SIGN PANGHULUyYUKUyAELAENGyOLONGxMEPETxNEULEUNGkSIGN PAMAAEHpVIRAMAkCONSONANT S"
      ++ "IGN PASANGAN MAιWAkLETTER KHArSYAkDIGIT ZEROqONEqTWOrHREEqFOURrIVEqSIXrEVENqEIGHTqNI"
      ++ "NEkAVAGRAHAkLETTER REUrLEUrBHArFINAL KxM"),
    (0x1bc0, "aBATAK LETTER AnSIMALUNGUN AnHAnSIMALUNGUN HAnMANDAILING HAnBAnKARO BAnPAnSIMALUNGUN"
      ++ " PAnNAnMANDAILING NAnWAnSIMALUNGUN WAnPAKPAK WAnGAnSIMALUNGUN GAnJAnDAnRAnSIMALUNGUN"
      ++ " RAnMAnSIMALUNGUN MAoOUTHERN TAnNORTHERN TAnSAoIMALUNGUN SAnMANDAILING SAnYAnSIMALUN"
      ++ "GUN YAnNGAnLAnSIMALUNGUN LAnNYAnCAnNDAnMBAnInUgSIGN TOMPIgVOWEL SIGN ErPAKPAK ErEErI"
      ++ "rKARO IrOrKARO OrUs FOR SIMALUNGUN SAgCONSONANT SIGN NGvHgPANGOLATjONGONAN"),
    (0x1bfc, "aBATAK SYMBOL BINDU NA METEKtPINARBORAStJUDULtPANGOLATaLEPCHA LETTER KApLApHAoGApLAo"
      ++ "NGAoCApHAoJAoNYAoTApHAoDAoNAoPApLApHAoFApLAoBApLAoMApLAoTSAqHAoDZAoYAoRAoLAoHApLAoVA"
      ++ "oSApHAoWAoAhSUBJOINED LETTER YAyRAhVOWEL SIGN AAsIsOtOsUtUsEhCONSONANT SIGN KwMwLwNw"
      ++ "PwRwTwNYIN-DOwKANGhSIGN RANmNUKTA"),
    (0x1c3b, "aLEPCHA PUNCTUATION TA-ROLtNYET THYOOM TA-ROLtCER-WAtTSHOOK CER-WAzhDIGIT ZEROnONEnT"
      ++ "WOoHREEnFOURoIVEnSIXoEVENnEIGHTnNINE"),
    (0x1c4d, "aLEPCHA LETTER TTAqHAoDDAaOL CHIKI DIGIT ZEROpONEpTWOqHREEpFOURqIVEpSIXqEVENpEIGHTpN"
      ++ "INEjLETTER LAqATrGrNGrLqLAAqAAKsJsMsWqLIqISrHrNYrRqLUqUCrDrNNrYqLEqEPrDDrNrRRqLOqOTT"
      ++ "rBrVrHjMU TTUDDAGjGAAHLAA TTUDDAAGjMU-GAAHLAA TTUDDAAGjRELAAjPHAARKAAjAHADjPUNCTUATI"
      ++ "ON MUCAADvDOUBLE MUCAADaCYRILLIC SMALL LETTER ROUNDED VEwLONG-LEGGED DEwNARROW OwWID"
      ++ "E ESwTALL TExHREE-LEGGED TExALL HARD SIGNβYATwUNBLENDED UK"),
    (0x1c90, "aGEORGIAN MTAVRULI CAPITAL LETTER ANθBANθGANθDONθENθVINθZENθTANθINθKANθLASθMANθNARθO"
      ++ "NθPARθZHARθRAEθSANθTARθUNθPHARθKHARθGHANθQARθSHINθCHINιANθJILθCILιHARθXANθJHANθHAEιE"
      ++ "ιIEθWEθHARιOEθFIθYNθELIFIθTURNED GANθAIN"),
    (0x1cbd, "aGEORGIAN MTAVRULI CAPITAL LETTER AENθHARD SIGNθLABIAL SIGNaSUNDANESE PUNCTUATION BI"
      ++ "NDU SURYAγPANGLONGδURNAMAγCAKRAγLEU SATANGAγKA SATANGAγDA SATANGAγBA SATANGA"),
    (0x1cd0, "aVEDIC TONE KARSHANAlSHARAlPRENKHAgSIGN NIHSHVASAlYAJURVEDIC MIDLINE SVARITAgTONE YA"
      ++ "JURVEDIC AGGRAVATED INDEPENDENT SVARITAwINDEPENDENT SVARITAwKATHAKA INDEPENDENT SVAR"
      ++ "ITAlCANDRA BELOWlYAJURVEDIC KATHAKA INDEPENDENT SVARITA SCHROEDERlDOUBLE SVARITAlTRI"
      ++ "PLE SVARITAlKATHAKA ANUDATTAlDOT BELOWlTWO DOTS BELOWmHREE DOTS BELOWlRIGVEDIC KASHM"
      ++ "IRI INDEPENDENT SVARITAlATHARVAVEDIC INDEPENDENT SVARITAgSIGN VISARGA SVARITAtUDATTA"
      ++ "lREVERSED VISARGA UDATTAlVISARGA ANUDATTAlREVERSED VISARGA ANUDATTAlVISARGA UDATTA W"
      ++ "ITH TAILtANUDATTA WITH TAILlANUSVARA ANTARGOMUKHAuBAHIRGOMUKHAuVAMAGOMUKHAζ WITH TAI"
      ++ "LlTIRYAKlHEXIFORM LONG ANUSVARAlLONG ANUSVARAlRTHANG LONG ANUSVARAlANUSVARA UBHAYATO"
      ++ " MUKHAmRDHAVISARGAlROTATED ARDHAVISARGAgTONE CANDRA ABOVEgSIGN JIHVAMULIYAlUPADHMANI"
      ++ "YAlATIKRAMAgTONE RING ABOVElDOUBLE RING ABOVEgSIGN DOUBLE ANUSVARA ANTARGOMUKHA"),
    (0x1d00, "aLATIN LETTER SMALL CAPITAL AγEgSMALL LETTER TURNED AEgLETTER SMALL CAPITAL BARRED B"
      ++ "βCβDβETHγgSMALL LETTER TURNED OPEN EαIgLETTER SMALL CAPITAL JβKβL WITH STROKEβMβREVE"
      ++ "RSED NβOγPEN OgSMALL LETTER SIDEWAYS OδPEN Oδ WITH STROKEtTURNED OEgLETTER SMALL CAP"
      ++ "ITAL OUgSMALL LETTER TOP HALF OtBOTTOM HALF OgLETTER SMALL CAPITAL PβREVERSED RβTURN"
      ++ "ED RγβUgSMALL LETTER SIDEWAYS UγDIAERESIZED UγTURNED MgLETTER SMALL CAPITAL VβWβZβEZ"
      ++ "HnVOICED LARYNGEAL SPIRANTnAINaGREEK LETTER SMALL CAPITAL GAMMAβLAMDAβPIβRHOβPSIaCYR"
      ++ "ILLIC LETTER SMALL CAPITAL ELaMODIFIER LETTER CAPITAL AzEyBzARRED ByDyEyREVERSED EyG"
      ++ "yHyIyJyKyLyMyNyREVERSED NyOzUyPyR"),
    (0x1d40, "aMODIFIER LETTER CAPITAL TyUyWqSMALL AwTURNED AwALPHAwTURNED AEwBwDwEwSCHWAwOPEN EwT"
      ++ "URNED OPEN EwGwTURNED IwKwMwENGwOxPEN OwTOP HALF OwBOTTOM HALF OwPwTwUwSIDEWAYS UwTU"
      ++ "RNED MwVwAINwBETAwGREEK GAMMAwDELTAwGREEK PHIwCHIaLATIN SUBSCRIPT SMALL LETTER IδRδU"
      ++ "δVaGREEK SUBSCRIPT SMALL LETTER BETAδGAMMAδRHOδPHIδCHIaLATIN SMALL LETTER UEtB WITH "
      ++ "MIDDLE TILDEtD WITH MIDDLE TILDEtF WITH MIDDLE TILDEtM WITH MIDDLE TILDEtN WITH MIDD"
      ++ "LE TILDEtP WITH MIDDLE TILDEtR WITH MIDDLE TILDEαFISHHOOK AND MIDDLE TILDEtS WITH MI"
      ++ "DDLE TILDEtT WITH MIDDLE TILDEtZ WITH MIDDLE TILDEtTURNED GaMODIFIER LETTER CYRILLIC"
      ++ " ENaLATIN SMALL LETTER INSULAR GtTH WITH STRIKETHROUGHmCAPITAL LETTER I WITH STROKEm"
      ++ "LETTER IOTA WITH STROKEtP WITH STROKEmCAPITAL LETTER U WITH STROKEmLETTER UPSILON WI"
      ++ "TH STROKE"),
    (0x1d80, "aLATIN SMALL LETTER B WITH PALATAL HOOKtD WITH PALATAL HOOKtF WITH PALATAL HOOKtG WI"
      ++ "TH PALATAL HOOKtK WITH PALATAL HOOKtL WITH PALATAL HOOKtM WITH PALATAL HOOKtN WITH P"
      ++ "ALATAL HOOKtP WITH PALATAL HOOKtR WITH PALATAL HOOKtS WITH PALATAL HOOKtESH WITH PAL"
      ++ "ATAL HOOKtV WITH PALATAL HOOKtX WITH PALATAL HOOKtZ WITH PALATAL HOOKtA WITH RETROFL"
      ++ "EX HOOKuLPHA WITH RETROFLEX HOOKtD WITH HOOK AND TAILtE WITH RETROFLEX HOOKtOPEN E W"
      ++ "ITH RETROFLEX HOOKtREVERSED OPEN E WITH RETROFLEX HOOKtSCHWA WITH RETROFLEX HOOKtI W"
      ++ "ITH RETROFLEX HOOKtOPEN O WITH RETROFLEX HOOKtESH WITH RETROFLEX HOOKtU WITH RETROFL"
      ++ "EX HOOKtEZH WITH RETROFLEX HOOKaMODIFIER LETTER SMALL TURNED ALPHAwCx WITH CURLwETHw"
      ++ "REVERSED OPEN EwFwDOTLESS J WITH STROKEwSCRIPT GwTURNED HwI WITH STROKExOTAwCAPITAL "
      ++ "Iζ WITH STROKEwJ WITH CROSSED-TAILwL WITH RETROFLEX HOOKδPALATAL HOOKwCAPITAL LwM WI"
      ++ "TH HOOKwTURNED M WITH LONG LEGwN WITH LEFT HOOKδRETROFLEX HOOKwCAPITAL NwBARRED OwPH"
      ++ "IwS WITH HOOKwESHwT WITH PALATAL HOOKwU BARxPSILONwCAPITAL UwV WITH HOOKwTURNED VwZx"
      ++ " WITH RETROFLEX HOOKδCURLwEZHwTHETA"),
    (0x1dc0, "aCOMBINING DOTTED GRAVE ACCENTrACUTE ACCENTkSNAKE BELOWlUSPENSION MARKkMACRON-ACUTEk"
      ++ "GRAVE-MACRONkMACRON-GRAVEkACUTE-MACRONkGRAVE-ACUTE-GRAVEkACUTE-GRAVE-ACUTEkLATIN SMA"
      ++ "LL LETTER R BELOWkBREVE-MACRONkMACRON-BREVEkDOUBLE CIRCUMFLEX ABOVEkOGONEK ABOVEkZIG"
      ++ "ZAG BELOWkIS BELOWkUR ABOVElS ABOVEkLATIN SMALL LETTER FLATTENED OPEN A ABOVEδAEεOεV"
      ++ "δC CEDILLAδINSULAR DδETHδGqLETTER SMALL CAPITAL GqSMALL LETTER KδLqLETTER SMALL CAPI"
      ++ "TAL LμMqSMALL LETTER NqLETTER SMALL CAPITAL NμRqSMALL LETTER R ROTUNDAδSδLONG SδZδAL"
      ++ "PHAδBεETAδSCHWAδFδL WITH DOUBLE MIDDLE TILDEδO WITH LIGHT CENTRALIZATION STROKEδPδES"
      ++ "HδU WITH LIGHT CENTRALIZATION STROKEδWδA WITH DIAERESISδO WITH DIAERESISδU WITH DIAE"
      ++ "RESISkUP TACK ABOVEkKAVYKA ABOVE RIGHTxLEFTkDOT ABOVE LEFTkWIDE INVERTED BRIDGE BELO"
      ++ "WkDOT BELOW LEFTlELETION MARKlOUBLE INVERTED BREVE BELOWkALMOST EQUAL TO BELOWkLEFT "
      ++ "ARROWHEAD ABOVEkRIGHT ARROWHEAD AND DOWN ARROWHEAD BELOW")
  ]

end ApiBridge.Text
