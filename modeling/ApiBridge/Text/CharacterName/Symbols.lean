/-!
# Names of characters: symbols

Accented letters, punctuation and symbols. A run starts at a code point; a
name starts with a mark for how much it shares with the one before.
-/

namespace ApiBridge.Text

/-- The names of these characters, in runs. -/
def symbolsNames : List (Nat × String) :=
  [
    (0x1e00, "aLATIN CAPITAL LETTER A WITH RING BELOWgSMALL LETTER A WITH RING BELOWgCAPITAL LETTE"
      ++ "R B WITH DOT ABOVEgSMALL LETTER B WITH DOT ABOVEgCAPITAL LETTER B WITH DOT BELOWgSMA"
      ++ "LL LETTER B WITH DOT BELOWgCAPITAL LETTER B WITH LINE BELOWgSMALL LETTER B WITH LINE"
      ++ " BELOWgCAPITAL LETTER C WITH CEDILLA AND ACUTEgSMALL LETTER C WITH CEDILLA AND ACUTE"
      ++ "gCAPITAL LETTER D WITH DOT ABOVEgSMALL LETTER D WITH DOT ABOVEgCAPITAL LETTER D WITH"
      ++ " DOT BELOWgSMALL LETTER D WITH DOT BELOWgCAPITAL LETTER D WITH LINE BELOWgSMALL LETT"
      ++ "ER D WITH LINE BELOWgCAPITAL LETTER D WITH CEDILLAgSMALL LETTER D WITH CEDILLAgCAPIT"
      ++ "AL LETTER D WITH CIRCUMFLEX BELOWgSMALL LETTER D WITH CIRCUMFLEX BELOWgCAPITAL LETTE"
      ++ "R E WITH MACRON AND GRAVEgSMALL LETTER E WITH MACRON AND GRAVEgCAPITAL LETTER E WITH"
      ++ " MACRON AND ACUTEgSMALL LETTER E WITH MACRON AND ACUTEgCAPITAL LETTER E WITH CIRCUMF"
      ++ "LEX BELOWgSMALL LETTER E WITH CIRCUMFLEX BELOWgCAPITAL LETTER E WITH TILDE BELOWgSMA"
      ++ "LL LETTER E WITH TILDE BELOWgCAPITAL LETTER E WITH CEDILLA AND BREVEgSMALL LETTER E "
      ++ "WITH CEDILLA AND BREVEgCAPITAL LETTER F WITH DOT ABOVEgSMALL LETTER F WITH DOT ABOVE"
      ++ "gCAPITAL LETTER G WITH MACRONgSMALL LETTER G WITH MACRONgCAPITAL LETTER H WITH DOT A"
      ++ "BOVEgSMALL LETTER H WITH DOT ABOVEgCAPITAL LETTER H WITH DOT BELOWgSMALL LETTER H WI"
      ++ "TH DOT BELOWgCAPITAL LETTER H WITH DIAERESISgSMALL LETTER H WITH DIAERESISgCAPITAL L"
      ++ "ETTER H WITH CEDILLAgSMALL LETTER H WITH CEDILLAgCAPITAL LETTER H WITH BREVE BELOWgS"
      ++ "MALL LETTER H WITH BREVE BELOWgCAPITAL LETTER I WITH TILDE BELOWgSMALL LETTER I WITH"
      ++ " TILDE BELOWgCAPITAL LETTER I WITH DIAERESIS AND ACUTEgSMALL LETTER I WITH DIAERESIS"
      ++ " AND ACUTEgCAPITAL LETTER K WITH ACUTEgSMALL LETTER K WITH ACUTEgCAPITAL LETTER K WI"
      ++ "TH DOT BELOWgSMALL LETTER K WITH DOT BELOWgCAPITAL LETTER K WITH LINE BELOWgSMALL LE"
      ++ "TTER K WITH LINE BELOWgCAPITAL LETTER L WITH DOT BELOWgSMALL LETTER L WITH DOT BELOW"
      ++ "gCAPITAL LETTER L WITH DOT BELOW AND MACRONgSMALL LETTER L WITH DOT BELOW AND MACRON"
      ++ "gCAPITAL LETTER L WITH LINE BELOWgSMALL LETTER L WITH LINE BELOWgCAPITAL LETTER L WI"
      ++ "TH CIRCUMFLEX BELOWgSMALL LETTER L WITH CIRCUMFLEX BELOWgCAPITAL LETTER M WITH ACUTE"
      ++ "gSMALL LETTER M WITH ACUTE"),
    (0x1e40, "aLATIN CAPITAL LETTER M WITH DOT ABOVEgSMALL LETTER M WITH DOT ABOVEgCAPITAL LETTER "
      ++ "M WITH DOT BELOWgSMALL LETTER M WITH DOT BELOWgCAPITAL LETTER N WITH DOT ABOVEgSMALL"
      ++ " LETTER N WITH DOT ABOVEgCAPITAL LETTER N WITH DOT BELOWgSMALL LETTER N WITH DOT BEL"
      ++ "OWgCAPITAL LETTER N WITH LINE BELOWgSMALL LETTER N WITH LINE BELOWgCAPITAL LETTER N "
      ++ "WITH CIRCUMFLEX BELOWgSMALL LETTER N WITH CIRCUMFLEX BELOWgCAPITAL LETTER O WITH TIL"
      ++ "DE AND ACUTEgSMALL LETTER O WITH TILDE AND ACUTEgCAPITAL LETTER O WITH TILDE AND DIA"
      ++ "ERESISgSMALL LETTER O WITH TILDE AND DIAERESISgCAPITAL LETTER O WITH MACRON AND GRAV"
      ++ "EgSMALL LETTER O WITH MACRON AND GRAVEgCAPITAL LETTER O WITH MACRON AND ACUTEgSMALL "
      ++ "LETTER O WITH MACRON AND ACUTEgCAPITAL LETTER P WITH ACUTEgSMALL LETTER P WITH ACUTE"
      ++ "gCAPITAL LETTER P WITH DOT ABOVEgSMALL LETTER P WITH DOT ABOVEgCAPITAL LETTER R WITH"
      ++ " DOT ABOVEgSMALL LETTER R WITH DOT ABOVEgCAPITAL LETTER R WITH DOT BELOWgSMALL LETTE"
      ++ "R R WITH DOT BELOWgCAPITAL LETTER R WITH DOT BELOW AND MACRONgSMALL LETTER R WITH DO"
      ++ "T BELOW AND MACRONgCAPITAL LETTER R WITH LINE BELOWgSMALL LETTER R WITH LINE BELOWgC"
      ++ "APITAL LETTER S WITH DOT ABOVEgSMALL LETTER S WITH DOT ABOVEgCAPITAL LETTER S WITH D"
      ++ "OT BELOWgSMALL LETTER S WITH DOT BELOWgCAPITAL LETTER S WITH ACUTE AND DOT ABOVEgSMA"
      ++ "LL LETTER S WITH ACUTE AND DOT ABOVEgCAPITAL LETTER S WITH CARON AND DOT ABOVEgSMALL"
      ++ " LETTER S WITH CARON AND DOT ABOVEgCAPITAL LETTER S WITH DOT BELOW AND DOT ABOVEgSMA"
      ++ "LL LETTER S WITH DOT BELOW AND DOT ABOVEgCAPITAL LETTER T WITH DOT ABOVEgSMALL LETTE"
      ++ "R T WITH DOT ABOVEgCAPITAL LETTER T WITH DOT BELOWgSMALL LETTER T WITH DOT BELOWgCAP"
      ++ "ITAL LETTER T WITH LINE BELOWgSMALL LETTER T WITH LINE BELOWgCAPITAL LETTER T WITH C"
      ++ "IRCUMFLEX BELOWgSMALL LETTER T WITH CIRCUMFLEX BELOWgCAPITAL LETTER U WITH DIAERESIS"
      ++ " BELOWgSMALL LETTER U WITH DIAERESIS BELOWgCAPITAL LETTER U WITH TILDE BELOWgSMALL L"
      ++ "ETTER U WITH TILDE BELOWgCAPITAL LETTER U WITH CIRCUMFLEX BELOWgSMALL LETTER U WITH "
      ++ "CIRCUMFLEX BELOWgCAPITAL LETTER U WITH TILDE AND ACUTEgSMALL LETTER U WITH TILDE AND"
      ++ " ACUTEgCAPITAL LETTER U WITH MACRON AND DIAERESISgSMALL LETTER U WITH MACRON AND DIA"
      ++ "ERESISgCAPITAL LETTER V WITH TILDEgSMALL LETTER V WITH TILDEgCAPITAL LETTER V WITH D"
      ++ "OT BELOWgSMALL LETTER V WITH DOT BELOW"),
    (0x1e80, "aLATIN CAPITAL LETTER W WITH GRAVEgSMALL LETTER W WITH GRAVEgCAPITAL LETTER W WITH A"
      ++ "CUTEgSMALL LETTER W WITH ACUTEgCAPITAL LETTER W WITH DIAERESISgSMALL LETTER W WITH D"
      ++ "IAERESISgCAPITAL LETTER W WITH DOT ABOVEgSMALL LETTER W WITH DOT ABOVEgCAPITAL LETTE"
      ++ "R W WITH DOT BELOWgSMALL LETTER W WITH DOT BELOWgCAPITAL LETTER X WITH DOT ABOVEgSMA"
      ++ "LL LETTER X WITH DOT ABOVEgCAPITAL LETTER X WITH DIAERESISgSMALL LETTER X WITH DIAER"
      ++ "ESISgCAPITAL LETTER Y WITH DOT ABOVEgSMALL LETTER Y WITH DOT ABOVEgCAPITAL LETTER Z "
      ++ "WITH CIRCUMFLEXgSMALL LETTER Z WITH CIRCUMFLEXgCAPITAL LETTER Z WITH DOT BELOWgSMALL"
      ++ " LETTER Z WITH DOT BELOWgCAPITAL LETTER Z WITH LINE BELOWgSMALL LETTER Z WITH LINE B"
      ++ "ELOWtH WITH LINE BELOWtT WITH DIAERESIStW WITH RING ABOVEtY WITH RING ABOVEtA WITH R"
      ++ "IGHT HALF RINGtLONG S WITH DOT ABOVEηIAGONAL STROKEζHIGH STROKEgCAPITAL LETTER SHARP"
      ++ " SgSMALL LETTER DELTAgCAPITAL LETTER A WITH DOT BELOWgSMALL LETTER A WITH DOT BELOWg"
      ++ "CAPITAL LETTER A WITH HOOK ABOVEgSMALL LETTER A WITH HOOK ABOVEgCAPITAL LETTER A WIT"
      ++ "H CIRCUMFLEX AND ACUTEgSMALL LETTER A WITH CIRCUMFLEX AND ACUTEgCAPITAL LETTER A WIT"
      ++ "H CIRCUMFLEX AND GRAVEgSMALL LETTER A WITH CIRCUMFLEX AND GRAVEgCAPITAL LETTER A WIT"
      ++ "H CIRCUMFLEX AND HOOK ABOVEgSMALL LETTER A WITH CIRCUMFLEX AND HOOK ABOVEgCAPITAL LE"
      ++ "TTER A WITH CIRCUMFLEX AND TILDEgSMALL LETTER A WITH CIRCUMFLEX AND TILDEgCAPITAL LE"
      ++ "TTER A WITH CIRCUMFLEX AND DOT BELOWgSMALL LETTER A WITH CIRCUMFLEX AND DOT BELOWgCA"
      ++ "PITAL LETTER A WITH BREVE AND ACUTEgSMALL LETTER A WITH BREVE AND ACUTEgCAPITAL LETT"
      ++ "ER A WITH BREVE AND GRAVEgSMALL LETTER A WITH BREVE AND GRAVEgCAPITAL LETTER A WITH "
      ++ "BREVE AND HOOK ABOVEgSMALL LETTER A WITH BREVE AND HOOK ABOVEgCAPITAL LETTER A WITH "
      ++ "BREVE AND TILDEgSMALL LETTER A WITH BREVE AND TILDEgCAPITAL LETTER A WITH BREVE AND "
      ++ "DOT BELOWgSMALL LETTER A WITH BREVE AND DOT BELOWgCAPITAL LETTER E WITH DOT BELOWgSM"
      ++ "ALL LETTER E WITH DOT BELOWgCAPITAL LETTER E WITH HOOK ABOVEgSMALL LETTER E WITH HOO"
      ++ "K ABOVEgCAPITAL LETTER E WITH TILDEgSMALL LETTER E WITH TILDEgCAPITAL LETTER E WITH "
      ++ "CIRCUMFLEX AND ACUTEgSMALL LETTER E WITH CIRCUMFLEX AND ACUTE"),
    (0x1ec0, "aLATIN CAPITAL LETTER E WITH CIRCUMFLEX AND GRAVEgSMALL LETTER E WITH CIRCUMFLEX AND"
      ++ " GRAVEgCAPITAL LETTER E WITH CIRCUMFLEX AND HOOK ABOVEgSMALL LETTER E WITH CIRCUMFLE"
      ++ "X AND HOOK ABOVEgCAPITAL LETTER E WITH CIRCUMFLEX AND TILDEgSMALL LETTER E WITH CIRC"
      ++ "UMFLEX AND TILDEgCAPITAL LETTER E WITH CIRCUMFLEX AND DOT BELOWgSMALL LETTER E WITH "
      ++ "CIRCUMFLEX AND DOT BELOWgCAPITAL LETTER I WITH HOOK ABOVEgSMALL LETTER I WITH HOOK A"
      ++ "BOVEgCAPITAL LETTER I WITH DOT BELOWgSMALL LETTER I WITH DOT BELOWgCAPITAL LETTER O "
      ++ "WITH DOT BELOWgSMALL LETTER O WITH DOT BELOWgCAPITAL LETTER O WITH HOOK ABOVEgSMALL "
      ++ "LETTER O WITH HOOK ABOVEgCAPITAL LETTER O WITH CIRCUMFLEX AND ACUTEgSMALL LETTER O W"
      ++ "ITH CIRCUMFLEX AND ACUTEgCAPITAL LETTER O WITH CIRCUMFLEX AND GRAVEgSMALL LETTER O W"
      ++ "ITH CIRCUMFLEX AND GRAVEgCAPITAL LETTER O WITH CIRCUMFLEX AND HOOK ABOVEgSMALL LETTE"
      ++ "R O WITH CIRCUMFLEX AND HOOK ABOVEgCAPITAL LETTER O WITH CIRCUMFLEX AND TILDEgSMALL "
      ++ "LETTER O WITH CIRCUMFLEX AND TILDEgCAPITAL LETTER O WITH CIRCUMFLEX AND DOT BELOWgSM"
      ++ "ALL LETTER O WITH CIRCUMFLEX AND DOT BELOWgCAPITAL LETTER O WITH HORN AND ACUTEgSMAL"
      ++ "L LETTER O WITH HORN AND ACUTEgCAPITAL LETTER O WITH HORN AND GRAVEgSMALL LETTER O W"
      ++ "ITH HORN AND GRAVEgCAPITAL LETTER O WITH HORN AND HOOK ABOVEgSMALL LETTER O WITH HOR"
      ++ "N AND HOOK ABOVEgCAPITAL LETTER O WITH HORN AND TILDEgSMALL LETTER O WITH HORN AND T"
      ++ "ILDEgCAPITAL LETTER O WITH HORN AND DOT BELOWgSMALL LETTER O WITH HORN AND DOT BELOW"
      ++ "gCAPITAL LETTER U WITH DOT BELOWgSMALL LETTER U WITH DOT BELOWgCAPITAL LETTER U WITH"
      ++ " HOOK ABOVEgSMALL LETTER U WITH HOOK ABOVEgCAPITAL LETTER U WITH HORN AND ACUTEgSMAL"
      ++ "L LETTER U WITH HORN AND ACUTEgCAPITAL LETTER U WITH HORN AND GRAVEgSMALL LETTER U W"
      ++ "ITH HORN AND GRAVEgCAPITAL LETTER U WITH HORN AND HOOK ABOVEgSMALL LETTER U WITH HOR"
      ++ "N AND HOOK ABOVEgCAPITAL LETTER U WITH HORN AND TILDEgSMALL LETTER U WITH HORN AND T"
      ++ "ILDEgCAPITAL LETTER U WITH HORN AND DOT BELOWgSMALL LETTER U WITH HORN AND DOT BELOW"
      ++ "gCAPITAL LETTER Y WITH GRAVEgSMALL LETTER Y WITH GRAVEgCAPITAL LETTER Y WITH DOT BEL"
      ++ "OWgSMALL LETTER Y WITH DOT BELOWgCAPITAL LETTER Y WITH HOOK ABOVEgSMALL LETTER Y WIT"
      ++ "H HOOK ABOVEgCAPITAL LETTER Y WITH TILDEgSMALL LETTER Y WITH TILDEgCAPITAL LETTER MI"
      ++ "DDLE-WELSH LLgSMALL LETTER MIDDLE-WELSH LLgCAPITAL LETTER MIDDLE-WELSH VgSMALL LETTE"
      ++ "R MIDDLE-WELSH VgCAPITAL LETTER Y WITH LOOPgSMALL LETTER Y WITH LOOP"),
    (0x1f00, "aGREEK SMALL LETTER ALPHA WITH PSILIεDASIAεPSILI AND VARIAεDASIA AND VARIAεPSILI AND"
      ++ " OXIAεDASIA AND OXIAεPSILI AND PERISPOMENIεDASIA AND PERISPOMENIgCAPITAL LETTER ALPH"
      ++ "A WITH PSILIηDASIAηPSILI AND VARIAηDASIA AND VARIAηPSILI AND OXIAηDASIA AND OXIAηPSI"
      ++ "LI AND PERISPOMENIηDASIA AND PERISPOMENIgSMALL LETTER EPSILON WITH PSILIηDASIAηPSILI"
      ++ " AND VARIAηDASIA AND VARIAηPSILI AND OXIAηDASIA AND OXIA"),
    (0x1f18, "aGREEK CAPITAL LETTER EPSILON WITH PSILIιDASIAιPSILI AND VARIAιDASIA AND VARIAιPSILI"
      ++ " AND OXIAιDASIA AND OXIA"),
    (0x1f20, "aGREEK SMALL LETTER ETA WITH PSILIγDASIAγPSILI AND VARIAγDASIA AND VARIAγPSILI AND O"
      ++ "XIAγDASIA AND OXIAγPSILI AND PERISPOMENIγDASIA AND PERISPOMENIgCAPITAL LETTER ETA WI"
      ++ "TH PSILIεDASIAεPSILI AND VARIAεDASIA AND VARIAεPSILI AND OXIAεDASIA AND OXIAεPSILI A"
      ++ "ND PERISPOMENIεDASIA AND PERISPOMENIgSMALL LETTER IOTA WITH PSILIδDASIAδPSILI AND VA"
      ++ "RIAδDASIA AND VARIAδPSILI AND OXIAδDASIA AND OXIAδPSILI AND PERISPOMENIδDASIA AND PE"
      ++ "RISPOMENIgCAPITAL LETTER IOTA WITH PSILIζDASIAζPSILI AND VARIAζDASIA AND VARIAζPSILI"
      ++ " AND OXIAζDASIA AND OXIAζPSILI AND PERISPOMENIζDASIA AND PERISPOMENIgSMALL LETTER OM"
      ++ "ICRON WITH PSILIηDASIAηPSILI AND VARIAηDASIA AND VARIAηPSILI AND OXIAηDASIA AND OXIA"),
    (0x1f48, "aGREEK CAPITAL LETTER OMICRON WITH PSILIιDASIAιPSILI AND VARIAιDASIA AND VARIAιPSILI"
      ++ " AND OXIAιDASIA AND OXIA"),
    (0x1f50, "aGREEK SMALL LETTER UPSILON WITH PSILIηDASIAηPSILI AND VARIAηDASIA AND VARIAηPSILI A"
      ++ "ND OXIAηDASIA AND OXIAηPSILI AND PERISPOMENIηDASIA AND PERISPOMENI"),
    (0x1f59, "aGREEK CAPITAL LETTER UPSILON WITH DASIA"),
    (0x1f5b, "aGREEK CAPITAL LETTER UPSILON WITH DASIA AND VARIA"),
    (0x1f5d, "aGREEK CAPITAL LETTER UPSILON WITH DASIA AND OXIA"),
    (0x1f5f, "aGREEK CAPITAL LETTER UPSILON WITH DASIA AND PERISPOMENIgSMALL LETTER OMEGA WITH PSI"
      ++ "LIεDASIAεPSILI AND VARIAεDASIA AND VARIAεPSILI AND OXIAεDASIA AND OXIAεPSILI AND PER"
      ++ "ISPOMENIεDASIA AND PERISPOMENIgCAPITAL LETTER OMEGA WITH PSILIηDASIAηPSILI AND VARIA"
      ++ "ηDASIA AND VARIAηPSILI AND OXIAηDASIA AND OXIAηPSILI AND PERISPOMENIηDASIA AND PERIS"
      ++ "POMENIgSMALL LETTER ALPHA WITH VARIAεOXIAtEPSILON WITH VARIAηOXIAuTA WITH VARIAγOXIA"
      ++ "tIOTA WITH VARIAδOXIAtOMICRON WITH VARIAηOXIAtUPSILON WITH VARIAηOXIAtOMEGA WITH VAR"
      ++ "IAεOXIA"),
    (0x1f80, "aGREEK SMALL LETTER ALPHA WITH PSILI AND YPOGEGRAMMENIεDASIA AND YPOGEGRAMMENIεPSILI"
      ++ " AND VARIA AND YPOGEGRAMMENIεDASIA AND VARIA AND YPOGEGRAMMENIεPSILI AND OXIA AND YP"
      ++ "OGEGRAMMENIεDASIA AND OXIA AND YPOGEGRAMMENIεPSILI AND PERISPOMENI AND YPOGEGRAMMENI"
      ++ "εDASIA AND PERISPOMENI AND YPOGEGRAMMENIgCAPITAL LETTER ALPHA WITH PSILI AND PROSGEG"
      ++ "RAMMENIηDASIA AND PROSGEGRAMMENIηPSILI AND VARIA AND PROSGEGRAMMENIηDASIA AND VARIA "
      ++ "AND PROSGEGRAMMENIηPSILI AND OXIA AND PROSGEGRAMMENIηDASIA AND OXIA AND PROSGEGRAMME"
      ++ "NIηPSILI AND PERISPOMENI AND PROSGEGRAMMENIηDASIA AND PERISPOMENI AND PROSGEGRAMMENI"
      ++ "gSMALL LETTER ETA WITH PSILI AND YPOGEGRAMMENIγDASIA AND YPOGEGRAMMENIγPSILI AND VAR"
      ++ "IA AND YPOGEGRAMMENIγDASIA AND VARIA AND YPOGEGRAMMENIγPSILI AND OXIA AND YPOGEGRAMM"
      ++ "ENIγDASIA AND OXIA AND YPOGEGRAMMENIγPSILI AND PERISPOMENI AND YPOGEGRAMMENIγDASIA A"
      ++ "ND PERISPOMENI AND YPOGEGRAMMENIgCAPITAL LETTER ETA WITH PSILI AND PROSGEGRAMMENIεDA"
      ++ "SIA AND PROSGEGRAMMENIεPSILI AND VARIA AND PROSGEGRAMMENIεDASIA AND VARIA AND PROSGE"
      ++ "GRAMMENIεPSILI AND OXIA AND PROSGEGRAMMENIεDASIA AND OXIA AND PROSGEGRAMMENIεPSILI A"
      ++ "ND PERISPOMENI AND PROSGEGRAMMENIεDASIA AND PERISPOMENI AND PROSGEGRAMMENIgSMALL LET"
      ++ "TER OMEGA WITH PSILI AND YPOGEGRAMMENIεDASIA AND YPOGEGRAMMENIεPSILI AND VARIA AND Y"
      ++ "POGEGRAMMENIεDASIA AND VARIA AND YPOGEGRAMMENIεPSILI AND OXIA AND YPOGEGRAMMENIεDASI"
      ++ "A AND OXIA AND YPOGEGRAMMENIεPSILI AND PERISPOMENI AND YPOGEGRAMMENIεDASIA AND PERIS"
      ++ "POMENI AND YPOGEGRAMMENIgCAPITAL LETTER OMEGA WITH PSILI AND PROSGEGRAMMENIηDASIA AN"
      ++ "D PROSGEGRAMMENIηPSILI AND VARIA AND PROSGEGRAMMENIηDASIA AND VARIA AND PROSGEGRAMME"
      ++ "NIηPSILI AND OXIA AND PROSGEGRAMMENIηDASIA AND OXIA AND PROSGEGRAMMENIηPSILI AND PER"
      ++ "ISPOMENI AND PROSGEGRAMMENIηDASIA AND PERISPOMENI AND PROSGEGRAMMENIgSMALL LETTER AL"
      ++ "PHA WITH VRACHYεMACRONεVARIA AND YPOGEGRAMMENIεYPOGEGRAMMENIεOXIA AND YPOGEGRAMMENI"),
    (0x1fb6, "aGREEK SMALL LETTER ALPHA WITH PERISPOMENIπ AND YPOGEGRAMMENIgCAPITAL LETTER ALPHA W"
      ++ "ITH VRACHYηMACRONηVARIAηOXIAηPROSGEGRAMMENIgKORONISgPROSGEGRAMMENIhSILIhERISPOMENIgD"
      ++ "IALYTIKA AND PERISPOMENIgSMALL LETTER ETA WITH VARIA AND YPOGEGRAMMENIγYPOGEGRAMMENI"
      ++ "γOXIA AND YPOGEGRAMMENI"),
    (0x1fc6, "aGREEK SMALL LETTER ETA WITH PERISPOMENIξ AND YPOGEGRAMMENIgCAPITAL LETTER EPSILON W"
      ++ "ITH VARIAιOXIAwTA WITH VARIAεOXIAεPROSGEGRAMMENIgPSILI AND VARIAqOXIAqPERISPOMENIgSM"
      ++ "ALL LETTER IOTA WITH VRACHYδMACRONδDIALYTIKA AND VARIAσOXIA"),
    (0x1fd6, "aGREEK SMALL LETTER IOTA WITH PERISPOMENIδDIALYTIKA AND PERISPOMENIgCAPITAL LETTER I"
      ++ "OTA WITH VRACHYζMACRONζVARIAζOXIA"),
    (0x1fdd, "aGREEK DASIA AND VARIAqOXIAqPERISPOMENIgSMALL LETTER UPSILON WITH VRACHYηMACRONηDIAL"
      ++ "YTIKA AND VARIAφOXIAtRHO WITH PSILIγDASIAtUPSILON WITH PERISPOMENIηDIALYTIKA AND PER"
      ++ "ISPOMENIgCAPITAL LETTER UPSILON WITH VRACHYιMACRONιVARIAιOXIAvRHO WITH DASIAgDIALYTI"
      ++ "KA AND VARIAuOXIAgVARIA"),
    (0x1ff2, "aGREEK SMALL LETTER OMEGA WITH VARIA AND YPOGEGRAMMENIεYPOGEGRAMMENIεOXIA AND YPOGEG"
      ++ "RAMMENI"),
    (0x1ff6, "aGREEK SMALL LETTER OMEGA WITH PERISPOMENIπ AND YPOGEGRAMMENIgCAPITAL LETTER OMICRON"
      ++ " WITH VARIAιOXIAxEGA WITH VARIAηOXIAηPROSGEGRAMMENIgOXIAgDASIA"),
    (0x2000, "aEN QUADbM QUADbN SPACEbM SPACEaTHREE-PER-EM SPACEaFOUR-PER-EM SPACEaSIX-PER-EM SPAC"
      ++ "EaFIGURE SPACEaPUNCTUATION SPACEaTHIN SPACEaHAIR SPACEaZERO WIDTH SPACElNON-JOINERlJ"
      ++ "OINERaLEFT-TO-RIGHT MARKaRIGHT-TO-LEFT MARKaHYPHENaNON-BREAKING HYPHENaFIGURE DASHaE"
      ++ "N DASHbM DASHaHORIZONTAL BARaDOUBLE VERTICAL LINEhLOW LINEaLEFT SINGLE QUOTATION MAR"
      ++ "KaRIGHT SINGLE QUOTATION MARKaSINGLE LOW-9 QUOTATION MARKhHIGH-REVERSED-9 QUOTATION "
      ++ "MARKaLEFT DOUBLE QUOTATION MARKaRIGHT DOUBLE QUOTATION MARKaDOUBLE LOW-9 QUOTATION M"
      ++ "ARKhHIGH-REVERSED-9 QUOTATION MARKbAGGERbOUBLE DAGGERaBULLETaTRIANGULAR BULLETaONE D"
      ++ "OT LEADERaTWO DOT LEADERaHORIZONTAL ELLIPSISbYPHENATION POINTaLINE SEPARATORaPARAGRA"
      ++ "PH SEPARATORaLEFT-TO-RIGHT EMBEDDINGaRIGHT-TO-LEFT EMBEDDINGaPOP DIRECTIONAL FORMATT"
      ++ "INGaLEFT-TO-RIGHT OVERRIDEaRIGHT-TO-LEFT OVERRIDEaNARROW NO-BREAK SPACEaPER MILLE SI"
      ++ "GNeTEN THOUSAND SIGNbRIMEaDOUBLE PRIMEaTRIPLE PRIMEaREVERSED PRIMEjDOUBLE PRIMEjTRIP"
      ++ "LE PRIMEaCARETaSINGLE LEFT-POINTING ANGLE QUOTATION MARKhRIGHT-POINTING ANGLE QUOTAT"
      ++ "ION MARKaREFERENCE MARKaDOUBLE EXCLAMATION MARKaINTERROBANGaOVERLINEaUNDERTIE"),
    (0x2040, "aCHARACTER TIEbARET INSERTION POINTaASTERISMaHYPHEN BULLETaFRACTION SLASHaLEFT SQUAR"
      ++ "E BRACKET WITH QUILLaRIGHT SQUARE BRACKET WITH QUILLaDOUBLE QUESTION MARKaQUESTION E"
      ++ "XCLAMATION MARKaEXCLAMATION QUESTION MARKaTIRONIAN SIGN ETaREVERSED PILCROW SIGNaBLA"
      ++ "CK LEFTWARDS BULLETgRIGHTWARDS BULLETaLOW ASTERISKaREVERSED SEMICOLONaCLOSE UPaTWO A"
      ++ "STERISKS ALIGNED VERTICALLYaCOMMERCIAL MINUS SIGNaSWUNG DASHaINVERTED UNDERTIEaFLOWE"
      ++ "R PUNCTUATION MARKaTHREE DOT PUNCTUATIONaQUADRUPLE PRIMEaFOUR DOT PUNCTUATIONbIVE DO"
      ++ "T PUNCTUATIONaTWO DOT PUNCTUATIONaFOUR DOT MARKaDOTTED CROSSaTRICOLONaVERTICAL FOUR "
      ++ "DOTSaMEDIUM MATHEMATICAL SPACEaWORD JOINERaFUNCTION APPLICATIONaINVISIBLE TIMESkSEPA"
      ++ "RATORkPLUS"),
    (0x2066, "aLEFT-TO-RIGHT ISOLATEaRIGHT-TO-LEFT ISOLATEaFIRST STRONG ISOLATEaPOP DIRECTIONAL IS"
      ++ "OLATEaINHIBIT SYMMETRIC SWAPPINGaACTIVATE SYMMETRIC SWAPPINGaINHIBIT ARABIC FORM SHA"
      ++ "PINGaACTIVATE ARABIC FORM SHAPINGaNATIONAL DIGIT SHAPESbOMINAL DIGIT SHAPESaSUPERSCR"
      ++ "IPT ZEROmLATIN SMALL LETTER I"),
    (0x2074, "aSUPERSCRIPT FOURnIVEmSIXnEVENmEIGHTmNINEmPLUS SIGNmMINUSmEQUALS SIGNmLEFT PARENTHES"
      ++ "ISmRIGHT PARENTHESISmLATIN SMALL LETTER NcBSCRIPT ZEROkONEkTWOlHREEkFOURlIVEkSIXlEVE"
      ++ "NkEIGHTkNINEkPLUS SIGNkMINUSkEQUALS SIGNkLEFT PARENTHESISkRIGHT PARENTHESIS"),
    (0x2090, "aLATIN SUBSCRIPT SMALL LETTER AδEδOδXδSCHWAδHδKδLδMδNδPδSδT"),
    (0x20a0, "aEURO-CURRENCY SIGNaCOLON SIGNbRUZEIRO SIGNaFRENCH FRANC SIGNaLIRA SIGNaMILL SIGNaNA"
      ++ "IRA SIGNaPESETA SIGNaRUPEE SIGNaWON SIGNaNEW SHEQEL SIGNaDONG SIGNaEURO SIGNaKIP SIG"
      ++ "NaTUGRIK SIGNaDRACHMA SIGNaGERMAN PENNY SIGNaPESO SIGNaGUARANI SIGNaAUSTRAL SIGNaHRY"
      ++ "VNIA SIGNaCEDI SIGNaLIVRE TOURNOIS SIGNaSPESMILO SIGNaTENGE SIGNaINDIAN RUPEE SIGNaT"
      ++ "URKISH LIRA SIGNaNORDIC MARK SIGNaMANAT SIGNaRUBLE SIGNaLARI SIGNaBITCOIN SIGNaSOM S"
      ++ "IGN"),
    (0x20d0, "aCOMBINING LEFT HARPOON ABOVEkRIGHT HARPOON ABOVEkLONG VERTICAL LINE OVERLAYkSHORT V"
      ++ "ERTICAL LINE OVERLAYkANTICLOCKWISE ARROW ABOVEkCLOCKWISE ARROW ABOVEkLEFT ARROW ABOV"
      ++ "EkRIGHT ARROW ABOVEmNG OVERLAYkCLOCKWISE RING OVERLAYkANTICLOCKWISE RING OVERLAYkTHR"
      ++ "EE DOTS ABOVEkFOUR DOTS ABOVEkENCLOSING CIRCLEuSQUAREuDIAMONDuCIRCLE BACKSLASHkLEFT "
      ++ "RIGHT ARROW ABOVEkENCLOSING SCREENuKEYCAPuUPWARD POINTING TRIANGLEkREVERSE SOLIDUS O"
      ++ "VERLAYkDOUBLE VERTICAL STROKE OVERLAYkANNUITY SYMBOLkTRIPLE UNDERDOTkWIDE BRIDGE ABO"
      ++ "VEkLEFTWARDS ARROW OVERLAYlONG DOUBLE SOLIDUS OVERLAYkRIGHTWARDS HARPOON WITH BARB D"
      ++ "OWNWARDSkLEFTWARDS HARPOON WITH BARB DOWNWARDSo ARROW BELOWkRIGHT ARROW BELOWkASTERI"
      ++ "SK ABOVE"),
    (0x2100, "aACCOUNT OFbDDRESSED TO THE SUBJECTaDOUBLE-STRUCK CAPITAL CbEGREE CELSIUSaCENTRE LIN"
      ++ "E SYMBOLbARE OFcDA UNAaEULER CONSTANTaSCRUPLEaDEGREE FAHRENHEITaSCRIPT SMALL GhCAPIT"
      ++ "AL HaBLACK-LETTER CAPITAL HaDOUBLE-STRUCK CAPITAL HaPLANCK CONSTANTp OVER TWO PIaSCR"
      ++ "IPT CAPITAL IaBLACK-LETTER CAPITAL IaSCRIPT CAPITAL LhSMALL LaL B BAR SYMBOLaDOUBLE-"
      ++ "STRUCK CAPITAL NaNUMERO SIGNaSOUND RECORDING COPYRIGHTbCRIPT CAPITAL PaDOUBLE-STRUCK"
      ++ " CAPITAL PwQaSCRIPT CAPITAL RaBLACK-LETTER CAPITAL RaDOUBLE-STRUCK CAPITAL RaPRESCRI"
      ++ "PTION TAKEaRESPONSEaSERVICE MARKaTELEPHONE SIGNbRADE MARK SIGNaVERSICLEaDOUBLE-STRUC"
      ++ "K CAPITAL ZaOUNCE SIGNbHM SIGNaINVERTED OHM SIGNaBLACK-LETTER CAPITAL ZaTURNED GREEK"
      ++ " SMALL LETTER IOTAaKELVIN SIGNaANGSTROM SIGNaSCRIPT CAPITAL BaBLACK-LETTER CAPITAL C"
      ++ "aESTIMATED SYMBOLaSCRIPT SMALL EhCAPITAL EpFaTURNED CAPITAL FaSCRIPT CAPITAL MhSMALL"
      ++ " OaALEF SYMBOLaBET SYMBOLaGIMEL SYMBOLaDALET SYMBOLaINFORMATION SOURCEaROTATED CAPIT"
      ++ "AL QaFACSIMILE SIGNaDOUBLE-STRUCK SMALL PIuGAMMAoCAPITAL GAMMAwPI"),
    (0x2140, "aDOUBLE-STRUCK N-ARY SUMMATIONaTURNED SANS-SERIF CAPITAL GαLaREVERSED SANS-SERIF CAP"
      ++ "ITAL LaTURNED SANS-SERIF CAPITAL YaDOUBLE-STRUCK ITALIC CAPITAL DvSMALL DβEβIβJaPROP"
      ++ "ERTY LINEaTURNED AMPERSANDaPER SIGNaAKTIESELSKABaTURNED SMALL FaSYMBOL FOR SAMARITAN"
      ++ " SOURCEaVULGAR FRACTION ONE SEVENTHuNINTHuTENTHvHIRDqTWO THIRDSqONE FIFTHqTWO FIFTHS"
      ++ "rHREE FIFTHSqFOUR FIFTHSqONE SIXTHqFIVE SIXTHSqONE EIGHTHqTHREE EIGHTHSqFIVE EIGHTHS"
      ++ "qSEVEN EIGHTHSaFRACTION NUMERATOR ONEaROMAN NUMERAL ONEoTWOpHREEoFOURpIVEoSIXpEVENoE"
      ++ "IGHToNINEoTENoELEVENoTWELVEoFIFTYoONE HUNDREDoFIVE HUNDREDoONE THOUSANDaSMALL ROMAN "
      ++ "NUMERAL ONEuTWOvHREEuFOURvIVEuSIXvEVENuEIGHTuNINEuTENuELEVENuTWELVEuFIFTYuONE HUNDRE"
      ++ "DuFIVE HUNDREDuONE THOUSAND"),
    (0x2180, "aROMAN NUMERAL ONE THOUSAND C DoFIVE THOUSANDoTEN THOUSANDoREVERSED ONE HUNDREDaLATI"
      ++ "N SMALL LETTER REVERSED CaROMAN NUMERAL SIX LATE FORMoFIFTY EARLY FORMuTHOUSANDoONE "
      ++ "HUNDRED THOUSANDaVULGAR FRACTION ZERO THIRDSaTURNED DIGIT TWOoHREE"),
    (0x2190, "aLEFTWARDS ARROWaUPWARDS ARROWaRIGHTWARDS ARROWaDOWNWARDS ARROWaLEFT RIGHT ARROWaUP "
      ++ "DOWN ARROWaNORTH WEST ARROWgEAST ARROWaSOUTH EAST ARROWgWEST ARROWaLEFTWARDS ARROW W"
      ++ "ITH STROKEaRIGHTWARDS ARROW WITH STROKEaLEFTWARDS WAVE ARROWaRIGHTWARDS WAVE ARROWaL"
      ++ "EFTWARDS TWO HEADED ARROWaUPWARDS TWO HEADED ARROWaRIGHTWARDS TWO HEADED ARROWaDOWNW"
      ++ "ARDS TWO HEADED ARROWaLEFTWARDS ARROW WITH TAILaRIGHTWARDS ARROW WITH TAILaLEFTWARDS"
      ++ " ARROW FROM BARaUPWARDS ARROW FROM BARaRIGHTWARDS ARROW FROM BARaDOWNWARDS ARROW FRO"
      ++ "M BARaUP DOWN ARROW WITH BASEaLEFTWARDS ARROW WITH HOOKaRIGHTWARDS ARROW WITH HOOKaL"
      ++ "EFTWARDS ARROW WITH LOOPaRIGHTWARDS ARROW WITH LOOPaLEFT RIGHT WAVE ARROWlARROW WITH"
      ++ " STROKEaDOWNWARDS ZIGZAG ARROWaUPWARDS ARROW WITH TIP LEFTWARDSxRIGHTWARDSaDOWNWARDS"
      ++ " ARROW WITH TIP LEFTWARDSzRIGHTWARDSaRIGHTWARDS ARROW WITH CORNER DOWNWARDSaDOWNWARD"
      ++ "S ARROW WITH CORNER LEFTWARDSaANTICLOCKWISE TOP SEMICIRCLE ARROWaCLOCKWISE TOP SEMIC"
      ++ "IRCLE ARROWaNORTH WEST ARROW TO LONG BARaLEFTWARDS ARROW TO BAR OVER RIGHTWARDS ARRO"
      ++ "W TO BARaANTICLOCKWISE OPEN CIRCLE ARROWaCLOCKWISE OPEN CIRCLE ARROWaLEFTWARDS HARPO"
      ++ "ON WITH BARB UPWARDSγDOWNWARDSaUPWARDS HARPOON WITH BARB RIGHTWARDSαLEFTWARDSaRIGHTW"
      ++ "ARDS HARPOON WITH BARB UPWARDSδDOWNWARDSaDOWNWARDS HARPOON WITH BARB RIGHTWARDSγLEFT"
      ++ "WARDSaRIGHTWARDS ARROW OVER LEFTWARDS ARROWaUPWARDS ARROW LEFTWARDS OF DOWNWARDS ARR"
      ++ "OWaLEFTWARDS ARROW OVER RIGHTWARDS ARROWkPAIRED ARROWSaUPWARDS PAIRED ARROWSaRIGHTWA"
      ++ "RDS PAIRED ARROWSaDOWNWARDS PAIRED ARROWSaLEFTWARDS HARPOON OVER RIGHTWARDS HARPOONa"
      ++ "RIGHTWARDS HARPOON OVER LEFTWARDS HARPOONaLEFTWARDS DOUBLE ARROW WITH STROKEe RIGHT "
      ++ "DOUBLE ARROW WITH STROKEaRIGHTWARDS DOUBLE ARROW WITH STROKE"),
    (0x21d0, "aLEFTWARDS DOUBLE ARROWaUPWARDS DOUBLE ARROWaRIGHTWARDS DOUBLE ARROWaDOWNWARDS DOUBL"
      ++ "E ARROWaLEFT RIGHT DOUBLE ARROWaUP DOWN DOUBLE ARROWaNORTH WEST DOUBLE ARROWgEAST DO"
      ++ "UBLE ARROWaSOUTH EAST DOUBLE ARROWgWEST DOUBLE ARROWaLEFTWARDS TRIPLE ARROWaRIGHTWAR"
      ++ "DS TRIPLE ARROWaLEFTWARDS SQUIGGLE ARROWaRIGHTWARDS SQUIGGLE ARROWaUPWARDS ARROW WIT"
      ++ "H DOUBLE STROKEaDOWNWARDS ARROW WITH DOUBLE STROKEaLEFTWARDS DASHED ARROWaUPWARDS DA"
      ++ "SHED ARROWaRIGHTWARDS DASHED ARROWaDOWNWARDS DASHED ARROWaLEFTWARDS ARROW TO BARaRIG"
      ++ "HTWARDS ARROW TO BARaLEFTWARDS WHITE ARROWaUPWARDS WHITE ARROWaRIGHTWARDS WHITE ARRO"
      ++ "WaDOWNWARDS WHITE ARROWaUPWARDS WHITE ARROW FROM BARuON PEDESTALζ WITH HORIZONTAL BA"
      ++ "RμVERTICAL BARoDOUBLE ARROWα ON PEDESTALaRIGHTWARDS WHITE ARROW FROM WALLaNORTH WEST"
      ++ " ARROW TO CORNERaSOUTH EAST ARROW TO CORNERaUP DOWN WHITE ARROWaRIGHT ARROW WITH SMA"
      ++ "LL CIRCLEaDOWNWARDS ARROW LEFTWARDS OF UPWARDS ARROWaTHREE RIGHTWARDS ARROWSaLEFTWAR"
      ++ "DS ARROW WITH VERTICAL STROKEaRIGHTWARDS ARROW WITH VERTICAL STROKEaLEFT RIGHT ARROW"
      ++ " WITH VERTICAL STROKEeWARDS ARROW WITH DOUBLE VERTICAL STROKEaRIGHTWARDS ARROW WITH "
      ++ "DOUBLE VERTICAL STROKEaLEFT RIGHT ARROW WITH DOUBLE VERTICAL STROKEeWARDS OPEN-HEADE"
      ++ "D ARROWaRIGHTWARDS OPEN-HEADED ARROWaLEFT RIGHT OPEN-HEADED ARROWaFOR ALLaCOMPLEMENT"
      ++ "aPARTIAL DIFFERENTIALaTHERE EXISTSgDOES NOT EXISTaEMPTY SETaINCREMENTaNABLAaELEMENT "
      ++ "OFaNOT AN ELEMENT OFaSMALL ELEMENT OFaCONTAINS AS MEMBERaDOES NOT CONTAIN AS MEMBERa"
      ++ "SMALL CONTAINS AS MEMBERaEND OF PROOFaN-ARY PRODUCT"),
    (0x2210, "aN-ARY COPRODUCTgSUMMATIONaMINUS SIGNf-OR-PLUS SIGNaDOT PLUSbIVISION SLASHaSET MINUS"
      ++ "aASTERISK OPERATORaRING OPERATORaBULLET OPERATORaSQUARE ROOTaCUBE ROOTaFOURTH ROOTaP"
      ++ "ROPORTIONAL TOaINFINITYaRIGHT ANGLEaANGLEaMEASURED ANGLEaSPHERICAL ANGLEaDIVIDESbOES"
      ++ " NOT DIVIDEaPARALLEL TOaNOT PARALLEL TOaLOGICAL ANDiORaINTERSECTIONaUNIONaINTEGRALaD"
      ++ "OUBLE INTEGRALaTRIPLE INTEGRALaCONTOUR INTEGRALaSURFACE INTEGRALaVOLUME INTEGRALaCLO"
      ++ "CKWISE INTEGRALkCONTOUR INTEGRALaANTICLOCKWISE CONTOUR INTEGRALaTHEREFOREaBECAUSEaRA"
      ++ "TIOaPROPORTIONaDOT MINUSaEXCESSaGEOMETRIC PROPORTIONaHOMOTHETICaTILDE OPERATORaREVER"
      ++ "SED TILDEaINVERTED LAZY SaSINE WAVEaWREATH PRODUCTaNOT TILDEaMINUS TILDEaASYMPTOTICA"
      ++ "LLY EQUAL TOaNOT ASYMPTOTICALLY EQUAL TOaAPPROXIMATELY EQUAL TOoBUT NOT ACTUALLY EQU"
      ++ "AL TOaNEITHER APPROXIMATELY NOR ACTUALLY EQUAL TOaALMOST EQUAL TOaNOT ALMOST EQUAL T"
      ++ "OaALMOST EQUAL OR EQUAL TOaTRIPLE TILDEaALL EQUAL TOaEQUIVALENT TOaGEOMETRICALLY EQU"
      ++ "IVALENT TOaDIFFERENCE BETWEEN"),
    (0x2250, "aAPPROACHES THE LIMITaGEOMETRICALLY EQUAL TOaAPPROXIMATELY EQUAL TO OR THE IMAGE OFa"
      ++ "IMAGE OF OR APPROXIMATELY EQUAL TOaCOLON EQUALSaEQUALS COLONaRING IN EQUAL TOfEQUAL "
      ++ "TOaCORRESPONDS TOaESTIMATESbQUIANGULAR TOaSTAR EQUALSaDELTA EQUAL TOaEQUAL TO BY DEF"
      ++ "INITIONaMEASURED BYaQUESTIONED EQUAL TOaNOT EQUAL TOaIDENTICAL TOaNOT IDENTICAL TOaS"
      ++ "TRICTLY EQUIVALENT TOaLESS-THAN OR EQUAL TOaGREATER-THAN OR EQUAL TOaLESS-THAN OVER "
      ++ "EQUAL TOaGREATER-THAN OVER EQUAL TOaLESS-THAN BUT NOT EQUAL TOaGREATER-THAN BUT NOT "
      ++ "EQUAL TOaMUCH LESS-THANfGREATER-THANaBETWEENaNOT EQUIVALENT TOeLESS-THANeGREATER-THA"
      ++ "NbEITHER LESS-THAN NOR EQUAL TOiGREATER-THAN NOR EQUAL TOaLESS-THAN OR EQUIVALENT TO"
      ++ "aGREATER-THAN OR EQUIVALENT TOaNEITHER LESS-THAN NOR EQUIVALENT TOiGREATER-THAN NOR "
      ++ "EQUIVALENT TOaLESS-THAN OR GREATER-THANaGREATER-THAN OR LESS-THANaNEITHER LESS-THAN "
      ++ "NOR GREATER-THANiGREATER-THAN NOR LESS-THANaPRECEDESaSUCCEEDSaPRECEDES OR EQUAL TOaS"
      ++ "UCCEEDS OR EQUAL TOaPRECEDES OR EQUIVALENT TOaSUCCEEDS OR EQUIVALENT TOaDOES NOT PRE"
      ++ "CEDEjSUCCEEDaSUBSET OFcPERSET OFaNOT A SUBSET OFiPERSET OFaSUBSET OF OR EQUAL TOcPER"
      ++ "SET OF OR EQUAL TOaNEITHER A SUBSET OF NOR EQUAL TOmPERSET OF NOR EQUAL TOaSUBSET OF"
      ++ " WITH NOT EQUAL TOcPERSET OF WITH NOT EQUAL TOaMULTISETi MULTIPLICATIONjUNIONaSQUARE"
      ++ " IMAGE OF"),
    (0x2290, "aSQUARE ORIGINAL OFhIMAGE OF OR EQUAL TOhORIGINAL OF OR EQUAL TOhCAPiUPaCIRCLED PLUS"
      ++ "iMINUSiTIMESiDIVISION SLASHjOT OPERATORiRING OPERATORiASTERISK OPERATORiEQUALSiDASHa"
      ++ "SQUARED PLUSiMINUSiTIMESiDOT OPERATORaRIGHT TACKaLEFT TACKaDOWN TACKaUP TACKaASSERTI"
      ++ "ONaMODELSaTRUEaFORCESaTRIPLE VERTICAL BAR RIGHT TURNSTILEaDOUBLE VERTICAL BAR DOUBLE"
      ++ " RIGHT TURNSTILEcES NOT PROVEaNOT TRUEaDOES NOT FORCEaNEGATED DOUBLE VERTICAL BAR DO"
      ++ "UBLE RIGHT TURNSTILEaPRECEDES UNDER RELATIONaSUCCEEDS UNDER RELATIONaNORMAL SUBGROUP"
      ++ " OFaCONTAINS AS NORMAL SUBGROUPaNORMAL SUBGROUP OF OR EQUAL TOaCONTAINS AS NORMAL SU"
      ++ "BGROUP OR EQUAL TOaORIGINAL OFaIMAGE OFaMULTIMAPaHERMITIAN CONJUGATE MATRIXaINTERCAL"
      ++ "ATEaXORaNANDbORaRIGHT ANGLE WITH ARCgTRIANGLEaN-ARY LOGICAL ANDoORgINTERSECTIONgUNIO"
      ++ "NaDIAMOND OPERATORbOT OPERATORaSTAR OPERATORaDIVISION TIMESaBOWTIEaLEFT NORMAL FACTO"
      ++ "R SEMIDIRECT PRODUCTaRIGHT NORMAL FACTOR SEMIDIRECT PRODUCTaLEFT SEMIDIRECT PRODUCTa"
      ++ "RIGHT SEMIDIRECT PRODUCTbEVERSED TILDE EQUALSaCURLY LOGICAL ORoAND"),
    (0x22d0, "aDOUBLE SUBSETjPERSEThINTERSECTIONhUNIONaPITCHFORKaEQUAL AND PARALLEL TOaLESS-THAN W"
      ++ "ITH DOTaGREATER-THAN WITH DOTaVERY MUCH LESS-THANkGREATER-THANaLESS-THAN EQUAL TO OR"
      ++ " GREATER-THANaGREATER-THAN EQUAL TO OR LESS-THANaEQUAL TO OR LESS-THANmGREATER-THANm"
      ++ "PRECEDESmSUCCEEDSaDOES NOT PRECEDE OR EQUALjSUCCEED OR EQUALaNOT SQUARE IMAGE OF OR "
      ++ "EQUAL TOlORIGINAL OF OR EQUAL TOaSQUARE IMAGE OF OR NOT EQUAL TOhORIGINAL OF OR NOT "
      ++ "EQUAL TOaLESS-THAN BUT NOT EQUIVALENT TOaGREATER-THAN BUT NOT EQUIVALENT TOaPRECEDES"
      ++ " BUT NOT EQUIVALENT TOaSUCCEEDS BUT NOT EQUIVALENT TOaNOT NORMAL SUBGROUP OFaDOES NO"
      ++ "T CONTAIN AS NORMAL SUBGROUPaNOT NORMAL SUBGROUP OF OR EQUAL TOaDOES NOT CONTAIN AS "
      ++ "NORMAL SUBGROUP OR EQUALaVERTICAL ELLIPSISaMIDLINE HORIZONTAL ELLIPSISaUP RIGHT DIAG"
      ++ "ONAL ELLIPSISaDOWN RIGHT DIAGONAL ELLIPSISaELEMENT OF WITH LONG HORIZONTAL STROKEqVE"
      ++ "RTICAL BAR AT END OF HORIZONTAL STROKEaSMALL ELEMENT OF WITH VERTICAL BAR AT END OF "
      ++ "HORIZONTAL STROKEaELEMENT OF WITH DOT ABOVEqOVERBARaSMALL ELEMENT OF WITH OVERBARaEL"
      ++ "EMENT OF WITH UNDERBARqTWO HORIZONTAL STROKESaCONTAINS WITH LONG HORIZONTAL STROKEoV"
      ++ "ERTICAL BAR AT END OF HORIZONTAL STROKEaSMALL CONTAINS WITH VERTICAL BAR AT END OF H"
      ++ "ORIZONTAL STROKEaCONTAINS WITH OVERBARaSMALL CONTAINS WITH OVERBARaZ NOTATION BAG ME"
      ++ "MBERSHIPaDIAMETER SIGNaELECTRIC ARROWaHOUSEaUP ARROWHEADaDOWN ARROWHEADaPROJECTIVEbE"
      ++ "RSPECTIVEaWAVY LINEaLEFT CEILINGaRIGHT CEILINGaLEFT FLOORaRIGHT FLOORaBOTTOM RIGHT C"
      ++ "ROPhLEFT CROPaTOP RIGHT CROPeLEFT CROP"),
    (0x2310, "aREVERSED NOT SIGNaSQUARE LOZENGEaARCaSEGMENTcCTORaTELEPHONE RECORDERaPOSITION INDIC"
      ++ "ATORaVIEWDATA SQUAREaPLACE OF INTEREST SIGNaTURNED NOT SIGNaWATCHaHOURGLASSaTOP LEFT"
      ++ " CORNEReRIGHT CORNERaBOTTOM LEFT CORNERhRIGHT CORNERaTOP HALF INTEGRALaBOTTOM HALF I"
      ++ "NTEGRALaFROWNaSMILEaUP ARROWHEAD BETWEEN TWO HORIZONTAL BARSaOPTION KEYaERASE TO THE"
      ++ " RIGHTaX IN A RECTANGLE BOXaKEYBOARDaLEFT-POINTING ANGLE BRACKETaRIGHT-POINTING ANGL"
      ++ "E BRACKETaERASE TO THE LEFTaBENZENE RINGaCYLINDRICITYaALL AROUND-PROFILEaSYMMETRYaTO"
      ++ "TAL RUNOUTaDIMENSION ORIGINaCONICAL TAPERaSLOPEaCOUNTERBOREhSINKaAPL FUNCTIONAL SYMB"
      ++ "OL I-BEAMwSQUISH QUADwQUAD EQUALβDIVIDEδAMONDβJOTβCIRCLEwCIRCLE STILEδJOTwSLASH BARw"
      ++ "BACKSLASH BARwQUAD SLASHβBACKSLASHβLESS-THANβGREATER-THANwLEFTWARDS VANEwRIGHTWARDS "
      ++ "VANEwQUAD LEFTWARDS ARROWβRIGHTWARDS ARROWwCIRCLE BACKSLASHwDOWN TACK UNDERBARxELTA "
      ++ "STILEwQUAD DOWN CARETγELTAwDOWN TACK JOTwUPWARDS VANE"),
    (0x2350, "aAPL FUNCTIONAL SYMBOL QUAD UPWARDS ARROWwUP TACK OVERBARwDEL STILEwQUAD UP CARETβDE"
      ++ "LwUP TACK JOTwDOWNWARDS VANEwQUAD DOWNWARDS ARROWyOTE UNDERBARwDELTA UNDERBARxIAMOND"
      ++ " UNDERBARwJOT UNDERBARwCIRCLE UNDERBARwUP SHOE JOTwQUOTE QUADwCIRCLE STARwQUAD COLON"
      ++ "wUP TACK DIAERESISwDEL DIAERESISwSTAR DIAERESISwJOT DIAERESISwCIRCLE DIAERESISwDOWN "
      ++ "SHOE STILEwLEFT SHOE STILEwTILDE DIAERESISwGREATER-THAN DIAERESISwCOMMA BARwDEL TILD"
      ++ "EwZILDEwSTILE TILDExEMICOLON UNDERBARwQUAD NOT EQUALβQUESTIONwDOWN CARET TILDEwUP CA"
      ++ "RET TILDEwIOTAwRHOwOMEGAwALPHA UNDERBARwEPSILON UNDERBARwIOTA UNDERBARwOMEGA UNDERBA"
      ++ "RwALPHAaNOT CHECK MARKaRIGHT ANGLE WITH DOWNWARDS ZIGZAG ARROWaSHOULDERED OPEN BOXaB"
      ++ "ELL SYMBOLaVERTICAL LINE WITH MIDDLE DOTaINSERTION SYMBOLaCONTINUOUS UNDERLINE SYMBO"
      ++ "LaDISCONTINUOUS UNDERLINE SYMBOLaEMPHASIS SYMBOLaCOMPOSITION SYMBOLaWHITE SQUARE WIT"
      ++ "H CENTRE VERTICAL LINEaENTER SYMBOLaALTERNATIVE KEY SYMBOLaHELM SYMBOLaCIRCLED HORIZ"
      ++ "ONTAL BAR WITH NOTCHiTRIANGLE DOWNaBROKEN CIRCLE WITH NORTHWEST ARROWaUNDO SYMBOLaMO"
      ++ "NOSTABLE SYMBOLaHYSTERESIS SYMBOLaOPEN-CIRCUIT-OUTPUT H-TYPE SYMBOL"),
    (0x2390, "aOPEN-CIRCUIT-OUTPUT L-TYPE SYMBOLaPASSIVE-PULL-DOWN-OUTPUT SYMBOLnUP-OUTPUT SYMBOLa"
      ++ "DIRECT CURRENT SYMBOL FORM TWOaSOFTWARE-FUNCTION SYMBOLaAPL FUNCTIONAL SYMBOL QUADaD"
      ++ "ECIMAL SEPARATOR KEY SYMBOLaPREVIOUS PAGEaNEXT PAGEaPRINT SCREEN SYMBOLaCLEAR SCREEN"
      ++ " SYMBOLaLEFT PARENTHESIS UPPER HOOKrEXTENSIONrLOWER HOOKaRIGHT PARENTHESIS UPPER HOO"
      ++ "KsEXTENSIONsLOWER HOOKaLEFT SQUARE BRACKET UPPER CORNERuEXTENSIONuLOWER CORNERaRIGHT"
      ++ " SQUARE BRACKET UPPER CORNERvEXTENSIONvLOWER CORNERaLEFT CURLY BRACKET UPPER HOOKtMI"
      ++ "DDLE PIECEtLOWER HOOKaCURLY BRACKET EXTENSIONaRIGHT CURLY BRACKET UPPER HOOKuMIDDLE "
      ++ "PIECEuLOWER HOOKaINTEGRAL EXTENSIONaHORIZONTAL LINE EXTENSIONaUPPER LEFT OR LOWER RI"
      ++ "GHT CURLY BRACKET SECTIONgRIGHT OR LOWER LEFT CURLY BRACKET SECTIONaSUMMATION TOPkBO"
      ++ "TTOMaTOP SQUARE BRACKETaBOTTOM SQUARE BRACKETv OVER TOP SQUARE BRACKETaRADICAL SYMBO"
      ++ "L BOTTOMaLEFT VERTICAL BOX LINEaRIGHT VERTICAL BOX LINEaHORIZONTAL SCAN LINE-1v3v7v9"
      ++ "aDENTISTRY SYMBOL LIGHT VERTICAL AND TOP RIGHTλBOTTOM RIGHTηWITH CIRCLExDOWN AND HOR"
      ++ "IZONTAL WITH CIRCLExUP AND HORIZONTAL WITH CIRCLExVERTICAL WITH TRIANGLExDOWN AND HO"
      ++ "RIZONTAL WITH TRIANGLExUP AND HORIZONTAL WITH TRIANGLExVERTICAL AND WAVExDOWN AND HO"
      ++ "RIZONTAL WITH WAVExUP AND HORIZONTAL WITH WAVExDOWN AND HORIZONTALxUP AND HORIZONTAL"
      ++ "xVERTICAL AND TOP LEFTλBOTTOM LEFTaSQUARE FOOTaRETURN SYMBOLaEJECT SYMBOL"),
    (0x23d0, "aVERTICAL LINE EXTENSIONaMETRICAL BREVEjLONG OVER SHORTjSHORT OVER LONGjLONG OVER TW"
      ++ "O SHORTSjTWO SHORTS OVER LONGuJOINEDkRISEMEkETRASEMEjPENTASEMEaEARTH GROUNDaFUSEaTOP"
      ++ " PARENTHESISaBOTTOM PARENTHESISaTOP CURLY BRACKETaBOTTOM CURLY BRACKETaTOP TORTOISE "
      ++ "SHELL BRACKETaBOTTOM TORTOISE SHELL BRACKETaWHITE TRAPEZIUMaBENZENE RING WITH CIRCLE"
      ++ "aSTRAIGHTNESSaFLATNESSaAC CURRENTaELECTRICAL INTERSECTIONaDECIMAL EXPONENT SYMBOLaBL"
      ++ "ACK RIGHT-POINTING DOUBLE TRIANGLEgLEFT-POINTING DOUBLE TRIANGLEgUP-POINTING DOUBLE "
      ++ "TRIANGLEgDOWN-POINTING DOUBLE TRIANGLEgRIGHT-POINTING DOUBLE TRIANGLE WITH VERTICAL "
      ++ "BARgLEFT-POINTING DOUBLE TRIANGLE WITH VERTICAL BARgRIGHT-POINTING TRIANGLE WITH DOU"
      ++ "BLE VERTICAL BARaALARM CLOCKaSTOPWATCHaTIMER CLOCKaHOURGLASS WITH FLOWING SANDaBLACK"
      ++ " MEDIUM LEFT-POINTING TRIANGLEnRIGHT-POINTING TRIANGLEnUP-POINTING TRIANGLEnDOWN-POI"
      ++ "NTING TRIANGLEaDOUBLE VERTICAL BARaBLACK SQUARE FOR STOPgCIRCLE FOR RECORDaPOWER SYM"
      ++ "BOLgON-OFF SYMBOLi SYMBOLgSLEEP SYMBOLaOBSERVER EYE SYMBOLaSYMBOL FOR NULLlSTART OF "
      ++ "HEADINGuTEXTlEND OF TEXTtRANSMISSIONnQUIRYlACKNOWLEDGElBELLmACKSPACElHORIZONTAL TABU"
      ++ "LATIONlLINE FEEDlVERTICAL TABULATIONlFORM FEEDlCARRIAGE RETURNlSHIFT OUTrIN"),
    (0x2410, "aSYMBOL FOR DATA LINK ESCAPEmEVICE CONTROL ONEαTWOβHREEαFOURlNEGATIVE ACKNOWLEDGElSY"
      ++ "NCHRONOUS IDLElEND OF TRANSMISSION BLOCKlCANCELlEND OF MEDIUMlSUBSTITUTElESCAPElFILE"
      ++ " SEPARATORlGROUP SEPARATORlRECORD SEPARATORlUNIT SEPARATORlSPACElDELETEaBLANK SYMBOL"
      ++ "aOPEN BOXaSYMBOL FOR NEWLINElDELETE FORM TWOlSUBSTITUTE FORM TWO"),
    (0x2440, "aOCR HOOKeCHAIReFORKeINVERTED FORKeBELT BUCKLEfOW TIEfRANCH BANK IDENTIFICATIONeAMOU"
      ++ "NT OF CHECKeDASHeCUSTOMER ACCOUNT NUMBEReDOUBLE BACKSLASH"),
    (0x2460, "aCIRCLED DIGIT ONEoTWOpHREEoFOURpIVEoSIXpEVENoEIGHToNINEiNUMBER TENpELEVENpTWELVEqHI"
      ++ "RTEENpFOURTEENqIFTEENpSIXTEENqEVENTEENpEIGHTEENpNINETEENpTWENTYaPARENTHESIZED DIGIT "
      ++ "ONEuTWOvHREEuFOURvIVEuSIXvEVENuEIGHTuNINEoNUMBER TENvELEVENvTWELVEwHIRTEENvFOURTEENw"
      ++ "IFTEENvSIXTEENwEVENTEENvEIGHTEENvNINETEENvTWENTYaDIGIT ONE FULL STOPgTWO FULL STOPhH"
      ++ "REE FULL STOPgFOUR FULL STOPhIVE FULL STOPgSIX FULL STOPhEVEN FULL STOPgEIGHT FULL S"
      ++ "TOPgNINE FULL STOPaNUMBER TEN FULL STOPhELEVEN FULL STOPhTWELVE FULL STOPiHIRTEEN FU"
      ++ "LL STOPhFOURTEEN FULL STOPiIFTEEN FULL STOPhSIXTEEN FULL STOPiEVENTEEN FULL STOPhEIG"
      ++ "HTEEN FULL STOPhNINETEEN FULL STOPhTWENTY FULL STOPaPARENTHESIZED LATIN SMALL LETTER"
      ++ " AθBθCθD"),
    (0x24a0, "aPARENTHESIZED LATIN SMALL LETTER EθFθGθHθIθJθKθLθMθNθOθPθQθRθSθTθUθVθWθXθYθZaCIRCLE"
      ++ "D LATIN CAPITAL LETTER AδBδCδDδEδFδGδHδIδJδKδLδMδNδOδPδQδRδSδTδUδVδWδXδYδZoSMALL LET"
      ++ "TER AβBβCβDβEβFβGβHβIβJβKβLβMβNβOβP"),
    (0x24e0, "aCIRCLED LATIN SMALL LETTER QβRβSβTβUβVβWβXβYβZiDIGIT ZEROaNEGATIVE CIRCLED NUMBER E"
      ++ "LEVENyTWELVEzHIRTEENyFOURTEENzIFTEENySIXTEENzEVENTEENyEIGHTEENyNINETEENyTWENTYaDOUBL"
      ++ "E CIRCLED DIGIT ONEvTWOwHREEvFOURwIVEvSIXwEVENvEIGHTvNINEpNUMBER TENaNEGATIVE CIRCLE"
      ++ "D DIGIT ZEROaBOX DRAWINGS LIGHT HORIZONTALnHEAVY HORIZONTALnLIGHT VERTICALnHEAVY VER"
      ++ "TICALnLIGHT TRIPLE DASH HORIZONTALnHEAVY TRIPLE DASH HORIZONTALnLIGHT TRIPLE DASH VE"
      ++ "RTICALnHEAVY TRIPLE DASH VERTICALnLIGHT QUADRUPLE DASH HORIZONTALnHEAVY QUADRUPLE DA"
      ++ "SH HORIZONTALnLIGHT QUADRUPLE DASH VERTICALnHEAVY QUADRUPLE DASH VERTICALnLIGHT DOWN"
      ++ " AND RIGHTnDOWN LIGHT AND RIGHT HEAVYsHEAVY AND RIGHT LIGHTnHEAVY DOWN AND RIGHTnLIG"
      ++ "HT DOWN AND LEFTnDOWN LIGHT AND LEFT HEAVYsHEAVY AND LEFT LIGHTnHEAVY DOWN AND LEFTn"
      ++ "LIGHT UP AND RIGHTnUP LIGHT AND RIGHT HEAVYqHEAVY AND RIGHT LIGHTnHEAVY UP AND RIGHT"
      ++ "nLIGHT UP AND LEFTnUP LIGHT AND LEFT HEAVYqHEAVY AND LEFT LIGHTnHEAVY UP AND LEFTnLI"
      ++ "GHT VERTICAL AND RIGHTnVERTICAL LIGHT AND RIGHT HEAVYnUP HEAVY AND RIGHT DOWN LIGHTn"
      ++ "DOWN HEAVY AND RIGHT UP LIGHT"),
    (0x2520, "aBOX DRAWINGS VERTICAL HEAVY AND RIGHT LIGHTnDOWN LIGHT AND RIGHT UP HEAVYnUP LIGHT "
      ++ "AND RIGHT DOWN HEAVYnHEAVY VERTICAL AND RIGHTnLIGHT VERTICAL AND LEFTnVERTICAL LIGHT"
      ++ " AND LEFT HEAVYnUP HEAVY AND LEFT DOWN LIGHTnDOWN HEAVY AND LEFT UP LIGHTnVERTICAL H"
      ++ "EAVY AND LEFT LIGHTnDOWN LIGHT AND LEFT UP HEAVYnUP LIGHT AND LEFT DOWN HEAVYnHEAVY "
      ++ "VERTICAL AND LEFTnLIGHT DOWN AND HORIZONTALoEFT HEAVY AND RIGHT DOWN LIGHTnRIGHT HEA"
      ++ "VY AND LEFT DOWN LIGHTnDOWN LIGHT AND HORIZONTAL HEAVYsHEAVY AND HORIZONTAL LIGHTnRI"
      ++ "GHT LIGHT AND LEFT DOWN HEAVYnLEFT LIGHT AND RIGHT DOWN HEAVYnHEAVY DOWN AND HORIZON"
      ++ "TALnLIGHT UP AND HORIZONTALoEFT HEAVY AND RIGHT UP LIGHTnRIGHT HEAVY AND LEFT UP LIG"
      ++ "HTnUP LIGHT AND HORIZONTAL HEAVYqHEAVY AND HORIZONTAL LIGHTnRIGHT LIGHT AND LEFT UP "
      ++ "HEAVYnLEFT LIGHT AND RIGHT UP HEAVYnHEAVY UP AND HORIZONTALnLIGHT VERTICAL AND HORIZ"
      ++ "ONTALoEFT HEAVY AND RIGHT VERTICAL LIGHTnRIGHT HEAVY AND LEFT VERTICAL LIGHTnVERTICA"
      ++ "L LIGHT AND HORIZONTAL HEAVYnUP HEAVY AND DOWN HORIZONTAL LIGHTnDOWN HEAVY AND UP HO"
      ++ "RIZONTAL LIGHTnVERTICAL HEAVY AND HORIZONTAL LIGHTnLEFT UP HEAVY AND RIGHT DOWN LIGH"
      ++ "TnRIGHT UP HEAVY AND LEFT DOWN LIGHTnLEFT DOWN HEAVY AND RIGHT UP LIGHTnRIGHT DOWN H"
      ++ "EAVY AND LEFT UP LIGHTnDOWN LIGHT AND UP HORIZONTAL HEAVYnUP LIGHT AND DOWN HORIZONT"
      ++ "AL HEAVYnRIGHT LIGHT AND LEFT VERTICAL HEAVYnLEFT LIGHT AND RIGHT VERTICAL HEAVYnHEA"
      ++ "VY VERTICAL AND HORIZONTALnLIGHT DOUBLE DASH HORIZONTALnHEAVY DOUBLE DASH HORIZONTAL"
      ++ "nLIGHT DOUBLE DASH VERTICALnHEAVY DOUBLE DASH VERTICALnDOUBLE HORIZONTALuVERTICALpWN"
      ++ " SINGLE AND RIGHT DOUBLEsDOUBLE AND RIGHT SINGLEpUBLE DOWN AND RIGHTpWN SINGLE AND L"
      ++ "EFT DOUBLEsDOUBLE AND LEFT SINGLEpUBLE DOWN AND LEFTnUP SINGLE AND RIGHT DOUBLEqDOUB"
      ++ "LE AND RIGHT SINGLEnDOUBLE UP AND RIGHTnUP SINGLE AND LEFT DOUBLEqDOUBLE AND LEFT SI"
      ++ "NGLEnDOUBLE UP AND LEFTnVERTICAL SINGLE AND RIGHT DOUBLEwDOUBLE AND RIGHT SINGLE"),
    (0x2560, "aBOX DRAWINGS DOUBLE VERTICAL AND RIGHTnVERTICAL SINGLE AND LEFT DOUBLEwDOUBLE AND L"
      ++ "EFT SINGLEnDOUBLE VERTICAL AND LEFTpWN SINGLE AND HORIZONTAL DOUBLEsDOUBLE AND HORIZ"
      ++ "ONTAL SINGLEpUBLE DOWN AND HORIZONTALnUP SINGLE AND HORIZONTAL DOUBLEqDOUBLE AND HOR"
      ++ "IZONTAL SINGLEnDOUBLE UP AND HORIZONTALnVERTICAL SINGLE AND HORIZONTAL DOUBLEwDOUBLE"
      ++ " AND HORIZONTAL SINGLEnDOUBLE VERTICAL AND HORIZONTALnLIGHT ARC DOWN AND RIGHTηLEFTx"
      ++ "UP AND LEFTεRIGHTtDIAGONAL UPPER RIGHT TO LOWER LEFTιLEFT TO LOWER RIGHTγCROSStLEFTt"
      ++ "UPtRIGHTtDOWNnHEAVY LEFTtUPtRIGHTtDOWNnLIGHT LEFT AND HEAVY RIGHTtUP AND HEAVY DOWNn"
      ++ "HEAVY LEFT AND LIGHT RIGHTtUP AND LIGHT DOWNaUPPER HALF BLOCKaLOWER ONE EIGHTH BLOCK"
      ++ "kQUARTER BLOCKgTHREE EIGHTHS BLOCKgHALF BLOCKgFIVE EIGHTHS BLOCKgTHREE QUARTERS BLOC"
      ++ "KgSEVEN EIGHTHS BLOCKaFULL BLOCKaLEFT SEVEN EIGHTHS BLOCKfTHREE QUARTERS BLOCKfFIVE "
      ++ "EIGHTHS BLOCKfHALF BLOCKfTHREE EIGHTHS BLOCKfONE QUARTER BLOCKjEIGHTH BLOCKaRIGHT HA"
      ++ "LF BLOCKaLIGHT SHADEaMEDIUM SHADEaDARK SHADEaUPPER ONE EIGHTH BLOCKaRIGHT ONE EIGHTH"
      ++ " BLOCKaQUADRANT LOWER LEFTpRIGHTjUPPER LEFTt AND LOWER LEFT AND LOWER RIGHTεRIGHTyUP"
      ++ "PER RIGHT AND LOWER LEFTφRIGHTpRIGHTu AND LOWER LEFTκ AND LOWER RIGHT"),
    (0x25a0, "aBLACK SQUAREaWHITE SQUAREm WITH ROUNDED CORNERSnCONTAINING BLACK SMALL SQUAREaSQUAR"
      ++ "E WITH HORIZONTAL FILLmVERTICAL FILLmORTHOGONAL CROSSHATCH FILLmUPPER LEFT TO LOWER "
      ++ "RIGHT FILLsRIGHT TO LOWER LEFT FILLmDIAGONAL CROSSHATCH FILLaBLACK SMALL SQUAREaWHIT"
      ++ "E SMALL SQUAREaBLACK RECTANGLEaWHITE RECTANGLEaBLACK VERTICAL RECTANGLEaWHITE VERTIC"
      ++ "AL RECTANGLEaBLACK PARALLELOGRAMaWHITE PARALLELOGRAMaBLACK UP-POINTING TRIANGLEaWHIT"
      ++ "E UP-POINTING TRIANGLEaBLACK UP-POINTING SMALL TRIANGLEaWHITE UP-POINTING SMALL TRIA"
      ++ "NGLEaBLACK RIGHT-POINTING TRIANGLEaWHITE RIGHT-POINTING TRIANGLEaBLACK RIGHT-POINTIN"
      ++ "G SMALL TRIANGLEaWHITE RIGHT-POINTING SMALL TRIANGLEaBLACK RIGHT-POINTING POINTERaWH"
      ++ "ITE RIGHT-POINTING POINTERaBLACK DOWN-POINTING TRIANGLEaWHITE DOWN-POINTING TRIANGLE"
      ++ "aBLACK DOWN-POINTING SMALL TRIANGLEaWHITE DOWN-POINTING SMALL TRIANGLEaBLACK LEFT-PO"
      ++ "INTING TRIANGLEaWHITE LEFT-POINTING TRIANGLEaBLACK LEFT-POINTING SMALL TRIANGLEaWHIT"
      ++ "E LEFT-POINTING SMALL TRIANGLEaBLACK LEFT-POINTING POINTERaWHITE LEFT-POINTING POINT"
      ++ "ERaBLACK DIAMONDaWHITE DIAMONDn CONTAINING BLACK SMALL DIAMONDaFISHEYEaLOZENGEaWHITE"
      ++ " CIRCLEaDOTTED CIRCLEaCIRCLE WITH VERTICAL FILLaBULLSEYEbLACK CIRCLEaCIRCLE WITH LEF"
      ++ "T HALF BLACKmRIGHT HALF BLACKmLOWER HALF BLACKmUPPER HALF BLACKsRIGHT QUADRANT BLACK"
      ++ "mALL BUT UPPER LEFT QUADRANT BLACKaLEFT HALF BLACK CIRCLEaRIGHT HALF BLACK CIRCLEaIN"
      ++ "VERSE BULLETiWHITE CIRCLEaUPPER HALF INVERSE WHITE CIRCLEaLOWER HALF INVERSE WHITE C"
      ++ "IRCLEaUPPER LEFT QUADRANT CIRCULAR ARCgRIGHT QUADRANT CIRCULAR ARCaLOWER RIGHT QUADR"
      ++ "ANT CIRCULAR ARCgLEFT QUADRANT CIRCULAR ARC"),
    (0x25e0, "aUPPER HALF CIRCLEaLOWER HALF CIRCLEaBLACK LOWER RIGHT TRIANGLEmLEFT TRIANGLEgUPPER "
      ++ "LEFT TRIANGLEmRIGHT TRIANGLEaWHITE BULLETaSQUARE WITH LEFT HALF BLACKmRIGHT HALF BLA"
      ++ "CKmUPPER LEFT DIAGONAL HALF BLACKmLOWER RIGHT DIAGONAL HALF BLACKaWHITE SQUARE WITH "
      ++ "VERTICAL BISECTING LINEgUP-POINTING TRIANGLE WITH DOTaUP-POINTING TRIANGLE WITH LEFT"
      ++ " HALF BLACKαRIGHT HALF BLACKaLARGE CIRCLEaWHITE SQUARE WITH UPPER LEFT QUADRANTsLOWE"
      ++ "R LEFT QUADRANTyRIGHT QUADRANTsUPPER RIGHT QUADRANTgCIRCLE WITH UPPER LEFT QUADRANTs"
      ++ "LOWER LEFT QUADRANTyRIGHT QUADRANTsUPPER RIGHT QUADRANTaUPPER LEFT TRIANGLEgRIGHT TR"
      ++ "IANGLEaLOWER LEFT TRIANGLEaWHITE MEDIUM SQUAREaBLACK MEDIUM SQUAREaWHITE MEDIUM SMAL"
      ++ "L SQUAREaBLACK MEDIUM SMALL SQUAREaLOWER RIGHT TRIANGLEaBLACK SUN WITH RAYSaCLOUDaUM"
      ++ "BRELLAaSNOWMANaCOMETaBLACK STARaWHITE STARaLIGHTNINGaTHUNDERSTORMaSUNaASCENDING NODE"
      ++ "aDESCENDING NODEaCONJUNCTIONaOPPOSITIONaBLACK TELEPHONEaWHITE TELEPHONEaBALLOT BOXk "
      ++ "WITH CHECKqXaSALTIREaUMBRELLA WITH RAIN DROPSaHOT BEVERAGEaWHITE SHOGI PIECEaBLACK S"
      ++ "HOGI PIECEaSHAMROCKaREVERSED ROTATED FLORAL HEART BULLETaBLACK LEFT POINTING INDEXgR"
      ++ "IGHT POINTING INDEXaWHITE LEFT POINTING INDEXgUP POINTING INDEXgRIGHT POINTING INDEX"
      ++ "gDOWN POINTING INDEX"),
    (0x2620, "aSKULL AND CROSSBONESaCAUTION SIGNaRADIOACTIVE SIGNaBIOHAZARD SIGNaCADUCEUSaANKHaORT"
      ++ "HODOX CROSSaCHI RHObROSS OF LORRAINEjJERUSALEMaSTAR AND CRESCENTaFARSI SYMBOLaADI SH"
      ++ "AKTIaHAMMER AND SICKLEaPEACE SYMBOLaYIN YANGaTRIGRAM FOR HEAVENmLAKEmFIREmTHUNDERmWI"
      ++ "NDnATERmMOUNTAINmEARTHaWHEEL OF DHARMAcITE FROWNING FACEgSMILING FACEaBLACK SMILING "
      ++ "FACEaWHITE SUN WITH RAYSaFIRST QUARTER MOONaLAST QUARTER MOONaMERCURYaFEMALE SIGNaEA"
      ++ "RTHaMALE SIGNaJUPITERaSATURNaURANUSaNEPTUNEaPLUTOaARIESaTAURUSaGEMINIaCANCERaLEOaVIR"
      ++ "GOaLIBRAaSCORPIUSbAGITTARIUSaCAPRICORNaAQUARIUSaPISCESaWHITE CHESS KINGmQUEENmROOKmB"
      ++ "ISHOPmKNIGHTmPAWNaBLACK CHESS KINGmQUEENmROOKmBISHOPmKNIGHTmPAWN"),
    (0x2660, "aBLACK SPADE SUITaWHITE HEART SUITgDIAMOND SUITaBLACK CLUB SUITaWHITE SPADE SUITaBLA"
      ++ "CK HEART SUITgDIAMOND SUITaWHITE CLUB SUITaHOT SPRINGSaQUARTER NOTEaEIGHTH NOTEaBEAM"
      ++ "ED EIGHTH NOTEShSIXTEENTH NOTESaMUSIC FLAT SIGNgNATURAL SIGNgSHARP SIGNaWEST SYRIAC "
      ++ "CROSSaEAST SYRIAC CROSSaUNIVERSAL RECYCLING SYMBOLaRECYCLING SYMBOL FOR TYPE-1 PLAST"
      ++ "ICSα2 PLASTICSα3 PLASTICSα4 PLASTICSα5 PLASTICSα6 PLASTICSα7 PLASTICSvGENERIC MATERI"
      ++ "ALSaBLACK UNIVERSAL RECYCLING SYMBOLaRECYCLED PAPER SYMBOLaPARTIALLY-RECYCLED PAPER "
      ++ "SYMBOLbERMANENT PAPER SIGNaWHEELCHAIR SYMBOLaDIE FACE-1j2j3j4j5j6aWHITE CIRCLE WITH "
      ++ "DOT RIGHTsTWO DOTSaBLACK CIRCLE WITH WHITE DOT RIGHTsTWO WHITE DOTSaMONOGRAM FOR YAN"
      ++ "GoINaDIGRAM FOR GREATER YANGlLESSER YINtANGlGREATER YINaWHITE FLAGaBLACK FLAGaHAMMER"
      ++ " AND PICKaANCHORaCROSSED SWORDSaSTAFF OF AESCULAPIUSbCALESaALEMBICaFLOWERaGEARaSTAFF"
      ++ " OF HERMESaATOM SYMBOLaFLEUR-DE-LISaOUTLINED WHITE STARaTHREE LINES CONVERGING RIGHT"
      ++ "xLEFT"),
    (0x26a0, "aWARNING SIGNaHIGH VOLTAGE SIGNaDOUBLED FEMALE SIGNiMALE SIGNaINTERLOCKED FEMALE AND"
      ++ " MALE SIGNaMALE AND FEMALE SIGNfWITH STROKE SIGNrAND MALE AND FEMALE SIGNaVERTICAL M"
      ++ "ALE WITH STROKE SIGNaHORIZONTAL MALE WITH STROKE SIGNaMEDIUM WHITE CIRCLEhBLACK CIRC"
      ++ "LEhSMALL WHITE CIRCLEbARRIAGE SYMBOLaDIVORCE SYMBOLaUNMARRIED PARTNERSHIP SYMBOLaCOF"
      ++ "FINaFUNERAL URNaNEUTERaCERESaPALLASaJUNOaVESTAaCHIRONaBLACK MOON LILITHaSEXTILEcMISE"
      ++ "XTILEaQUINCUNXaSESQUIQUADRATEbOCCER BALLaBASEBALLaSQUARED KEYaWHITE DRAUGHTS MANpKIN"
      ++ "GaBLACK DRAUGHTS MANpKINGaSNOWMAN WITHOUT SNOWbUN BEHIND CLOUDaRAINaBLACK SNOWMANaTH"
      ++ "UNDER CLOUD AND RAINbURNED WHITE SHOGI PIECEhBLACK SHOGI PIECEaWHITE DIAMOND IN SQUA"
      ++ "REaCROSSING LANESaDISABLED CARaOPHIUCHUSaPICKaCAR SLIDINGaHELMET WITH WHITE CROSSaCI"
      ++ "RCLED CROSSING LANESbHAINSaNO ENTRYaALTERNATE ONE-WAY LEFT WAY TRAFFICaBLACK TWO-WAY"
      ++ " LEFT WAY TRAFFICaWHITE TWO-WAY LEFT WAY TRAFFICaBLACK LEFT LANE MERGEaWHITE LEFT LA"
      ++ "NE MERGEaDRIVE SLOW SIGNaHEAVY WHITE DOWN-POINTING TRIANGLEaLEFT CLOSED ENTRYaSQUARE"
      ++ "D SALTIREaFALLING DIAGONAL IN WHITE CIRCLE IN BLACK SQUAREaBLACK TRUCK"),
    (0x26e0, "aRESTRICTED LEFT ENTRY-1w2aASTRONOMICAL SYMBOL FOR URANUSaHEAVY CIRCLE WITH STROKE A"
      ++ "ND TWO DOTS ABOVEaPENTAGRAMaRIGHT-HANDED INTERLACED PENTAGRAMaLEFT-HANDED INTERLACED"
      ++ " PENTAGRAMaINVERTED PENTAGRAMaBLACK CROSS ON SHIELDaSHINTO SHRINEaCHURCHbASTLEaHISTO"
      ++ "RIC SITEaGEAR WITHOUT HUBj HANDLESaMAP SYMBOL FOR LIGHTHOUSEbOUNTAINaUMBRELLA ON GRO"
      ++ "UNDaFOUNTAINbLAG IN HOLEbERRYaSAILBOATbQUARE FOUR CORNERSbKIERaICE SKATEaPERSON WITH"
      ++ " BALLaTENTaJAPANESE BANK SYMBOLaHEADSTONE GRAVEYARD SYMBOLaFUEL PUMPaCUP ON BLACK SQ"
      ++ "UAREaWHITE FLAG WITH HORIZONTAL MIDDLE BLACK STRIPEaBLACK SAFETY SCISSORSaUPPER BLAD"
      ++ "E SCISSORSaBLACK SCISSORSaLOWER BLADE SCISSORSaWHITE SCISSORSgHEAVY CHECK MARKaTELEP"
      ++ "HONE LOCATION SIGNbAPE DRIVEaAIRPLANEaENVELOPEaRAISED FISThHANDaVICTORY HANDaWRITING"
      ++ " HANDaLOWER RIGHT PENCILaPENCILaUPPER RIGHT PENCILaWHITE NIBaBLACK NIBaCHECK MARKaHE"
      ++ "AVY CHECK MARKaMULTIPLICATION XaHEAVY MULTIPLICATION XaBALLOT XaHEAVY BALLOT XaOUTLI"
      ++ "NED GREEK CROSSaHEAVY GREEK CROSSaOPEN CENTRE CROSSaHEAVY OPEN CENTRE CROSSaLATIN CR"
      ++ "OSSaSHADOWED WHITE LATIN CROSSaOUTLINED LATIN CROSS"),
    (0x2720, "aMALTESE CROSSaSTAR OF DAVIDaFOUR TEARDROP-SPOKED ASTERISKfBALLOON-SPOKED ASTERISKaH"
      ++ "EAVY FOUR BALLOON-SPOKED ASTERISKaFOUR CLUB-SPOKED ASTERISKaBLACK FOUR POINTED STARa"
      ++ "WHITE FOUR POINTED STARaSPARKLESbTRESS OUTLINED WHITE STARaCIRCLED WHITE STARaOPEN C"
      ++ "ENTRE BLACK STARaBLACK CENTRE WHITE STARaOUTLINED BLACK STARaHEAVY OUTLINED BLACK ST"
      ++ "ARaPINWHEEL STARaSHADOWED WHITE STARaHEAVY ASTERISKaOPEN CENTRE ASTERISKaEIGHT SPOKE"
      ++ "D ASTERISKgPOINTED BLACK STARoPINWHEEL STARaSIX POINTED BLACK STARaEIGHT POINTED REC"
      ++ "TILINEAR BLACK STARaHEAVY EIGHT POINTED RECTILINEAR BLACK STARaTWELVE POINTED BLACK "
      ++ "STARaSIXTEEN POINTED ASTERISKaTEARDROP-SPOKED ASTERISKaOPEN CENTRE TEARDROP-SPOKED A"
      ++ "STERISKaHEAVY TEARDROP-SPOKED ASTERISKaSIX PETALLED BLACK AND WHITE FLORETTEaBLACK F"
      ++ "LORETTEaWHITE FLORETTEaEIGHT PETALLED OUTLINED BLACK FLORETTEaCIRCLED OPEN CENTRE EI"
      ++ "GHT POINTED STARaHEAVY TEARDROP-SPOKED PINWHEEL ASTERISKaSNOWFLAKEaTIGHT TRIFOLIATE "
      ++ "SNOWFLAKEaHEAVY CHEVRON SNOWFLAKEaSPARKLEaHEAVY SPARKLEaBALLOON-SPOKED ASTERISKaEIGH"
      ++ "T TEARDROP-SPOKED PROPELLER ASTERISKaHEAVY EIGHT TEARDROP-SPOKED PROPELLER ASTERISKa"
      ++ "CROSS MARKaSHADOWED WHITE CIRCLEaNEGATIVE SQUARED CROSS MARKaLOWER RIGHT DROP-SHADOW"
      ++ "ED WHITE SQUAREaUPPER RIGHT DROP-SHADOWED WHITE SQUAREaLOWER RIGHT SHADOWED WHITE SQ"
      ++ "UAREaUPPER RIGHT SHADOWED WHITE SQUAREaBLACK QUESTION MARK ORNAMENTaWHITE QUESTION M"
      ++ "ARK ORNAMENTgEXCLAMATION MARK ORNAMENTaBLACK DIAMOND MINUS WHITE XaHEAVY EXCLAMATION"
      ++ " MARK SYMBOLaLIGHT VERTICAL BARaMEDIUM VERTICAL BARaHEAVY VERTICAL BARgSINGLE TURNED"
      ++ " COMMA QUOTATION MARK ORNAMENTnCOMMA QUOTATION MARK ORNAMENTgDOUBLE TURNED COMMA QUO"
      ++ "TATION MARK ORNAMENTnCOMMA QUOTATION MARK ORNAMENTgLOW SINGLE COMMA QUOTATION MARK O"
      ++ "RNAMENT"),
    (0x2760, "aHEAVY LOW DOUBLE COMMA QUOTATION MARK ORNAMENTaCURVED STEM PARAGRAPH SIGN ORNAMENTa"
      ++ "HEAVY EXCLAMATION MARK ORNAMENTgHEART EXCLAMATION MARK ORNAMENTgBLACK HEARTaROTATED "
      ++ "HEAVY BLACK HEART BULLETaFLORAL HEARTaROTATED FLORAL HEART BULLETaMEDIUM LEFT PARENT"
      ++ "HESIS ORNAMENThRIGHT PARENTHESIS ORNAMENThFLATTENED LEFT PARENTHESIS ORNAMENTrRIGHT "
      ++ "PARENTHESIS ORNAMENThLEFT-POINTING ANGLE BRACKET ORNAMENThRIGHT-POINTING ANGLE BRACK"
      ++ "ET ORNAMENTaHEAVY LEFT-POINTING ANGLE QUOTATION MARK ORNAMENTgRIGHT-POINTING ANGLE Q"
      ++ "UOTATION MARK ORNAMENTgLEFT-POINTING ANGLE BRACKET ORNAMENTgRIGHT-POINTING ANGLE BRA"
      ++ "CKET ORNAMENTaLIGHT LEFT TORTOISE SHELL BRACKET ORNAMENTgRIGHT TORTOISE SHELL BRACKE"
      ++ "T ORNAMENTaMEDIUM LEFT CURLY BRACKET ORNAMENThRIGHT CURLY BRACKET ORNAMENTaDINGBAT N"
      ++ "EGATIVE CIRCLED DIGIT ONEζTWOηHREEζFOURηIVEζSIXηEVENζEIGHTζNINEzNUMBER TENiCIRCLED S"
      ++ "ANS-SERIF DIGIT ONEθTWOιHREEθFOURιIVEθSIXιEVENθEIGHTθNINEβNUMBER TENiNEGATIVE CIRCLE"
      ++ "D SANS-SERIF DIGIT ONEρTWOσHREEρFOURσIVEρSIXσEVENρEIGHTρNINEλNUMBER TENaHEAVY WIDE-H"
      ++ "EADED RIGHTWARDS ARROWgPLUS SIGNgMINUS SIGNgDIVISION SIGNgSOUTH EAST ARROWgRIGHTWARD"
      ++ "S ARROWgNORTH EAST ARROWaDRAFTING POINT RIGHTWARDS ARROWaHEAVY ROUND-TIPPED RIGHTWAR"
      ++ "DS ARROWaTRIANGLE-HEADED RIGHTWARDS ARROWaHEAVY TRIANGLE-HEADED RIGHTWARDS ARROWaDAS"
      ++ "HED TRIANGLE-HEADED RIGHTWARDS ARROW"),
    (0x27a0, "aHEAVY DASHED TRIANGLE-HEADED RIGHTWARDS ARROWaBLACK RIGHTWARDS ARROWaTHREE-D TOP-LI"
      ++ "GHTED RIGHTWARDS ARROWHEADiBOTTOM-LIGHTED RIGHTWARDS ARROWHEADaBLACK RIGHTWARDS ARRO"
      ++ "WHEADaHEAVY BLACK CURVED DOWNWARDS AND RIGHTWARDS ARROWtUPWARDS AND RIGHTWARDS ARROW"
      ++ "aSQUAT BLACK RIGHTWARDS ARROWaHEAVY CONCAVE-POINTED BLACK RIGHTWARDS ARROWaRIGHT-SHA"
      ++ "DED WHITE RIGHTWARDS ARROWaLEFT-SHADED WHITE RIGHTWARDS ARROWaBACK-TILTED SHADOWED W"
      ++ "HITE RIGHTWARDS ARROWaFRONT-TILTED SHADOWED WHITE RIGHTWARDS ARROWaHEAVY LOWER RIGHT"
      ++ "-SHADOWED WHITE RIGHTWARDS ARROWgUPPER RIGHT-SHADOWED WHITE RIGHTWARDS ARROWaNOTCHED"
      ++ " LOWER RIGHT-SHADOWED WHITE RIGHTWARDS ARROWaCURLY LOOPaNOTCHED UPPER RIGHT-SHADOWED"
      ++ " WHITE RIGHTWARDS ARROWaCIRCLED HEAVY WHITE RIGHTWARDS ARROWaWHITE-FEATHERED RIGHTWA"
      ++ "RDS ARROWaBLACK-FEATHERED SOUTH EAST ARROWqRIGHTWARDS ARROWqNORTH EAST ARROWaHEAVY B"
      ++ "LACK-FEATHERED SOUTH EAST ARROWwRIGHTWARDS ARROWwNORTH EAST ARROWaTEARDROP-BARBED RI"
      ++ "GHTWARDS ARROWaHEAVY TEARDROP-SHANKED RIGHTWARDS ARROWaWEDGE-TAILED RIGHTWARDS ARROW"
      ++ "aHEAVY WEDGE-TAILED RIGHTWARDS ARROWaOPEN-OUTLINED RIGHTWARDS ARROWaDOUBLE CURLY LOO"
      ++ "PaTHREE DIMENSIONAL ANGLEaWHITE TRIANGLE CONTAINING SMALL WHITE TRIANGLEaPERPENDICUL"
      ++ "ARaOPEN SUBSEThPERSETaLEFT S-SHAPED BAG DELIMITERaRIGHT S-SHAPED BAG DELIMITERaOR WI"
      ++ "TH DOT INSIDEaREVERSE SOLIDUS PRECEDING SUBSETaSUPERSET PRECEDING SOLIDUSaVERTICAL B"
      ++ "AR WITH HORIZONTAL STROKEaMATHEMATICAL RISING DIAGONALaLONG DIVISIONaMATHEMATICAL FA"
      ++ "LLING DIAGONALaSQUARED LOGICAL ANDqORaWHITE DIAMOND WITH CENTRED DOTaAND WITH DOTaEL"
      ++ "EMENT OF OPENING UPWARDSaLOWER RIGHT CORNER WITH DOTaUPPER LEFT CORNER WITH DOTaLEFT"
      ++ " OUTER JOINaRIGHT OUTER JOINaFULL OUTER JOINaLARGE UP TACKgDOWN TACKbEFT AND RIGHT D"
      ++ "OUBLE TURNSTILEpTACKfMULTIMAPbONG RIGHT TACKfLEFT TACKaUP TACK WITH CIRCLE ABOVE"),
    (0x27e0, "aLOZENGE DIVIDED BY HORIZONTAL RULEaWHITE CONCAVE-SIDED DIAMONDβ WITH LEFTWARDS TICK"
      ++ "θRIGHTWARDS TICKgSQUARE WITH LEFTWARDS TICKsRIGHTWARDS TICKaMATHEMATICAL LEFT WHITE "
      ++ "SQUARE BRACKETnRIGHT WHITE SQUARE BRACKETnLEFT ANGLE BRACKETnRIGHT ANGLE BRACKETnLEF"
      ++ "T DOUBLE ANGLE BRACKETnRIGHT DOUBLE ANGLE BRACKETnLEFT WHITE TORTOISE SHELL BRACKETn"
      ++ "RIGHT WHITE TORTOISE SHELL BRACKETnLEFT FLATTENED PARENTHESISnRIGHT FLATTENED PARENT"
      ++ "HESISaUPWARDS QUADRUPLE ARROWaDOWNWARDS QUADRUPLE ARROWaANTICLOCKWISE GAPPED CIRCLE "
      ++ "ARROWaCLOCKWISE GAPPED CIRCLE ARROWaRIGHT ARROW WITH CIRCLED PLUSaLONG LEFTWARDS ARR"
      ++ "OWfRIGHTWARDS ARROWfLEFT RIGHT ARROWjWARDS DOUBLE ARROWfRIGHTWARDS DOUBLE ARROWfLEFT"
      ++ " RIGHT DOUBLE ARROWjWARDS ARROW FROM BARfRIGHTWARDS ARROW FROM BARfLEFTWARDS DOUBLE "
      ++ "ARROW FROM BARfRIGHTWARDS DOUBLE ARROW FROM BARqSQUIGGLE ARROWaBRAILLE PATTERN BLANK"
      ++ "qDOTS-1v2v12v3v13v23v123v4v14v24v124v34v134v234v1234v5v15v25v125v35v135v235v1235v45v"
      ++ "145v245v1245v345v1345v2345v12345"),
    (0x2820, "aBRAILLE PATTERN DOTS-6v16v26v126v36v136v236v1236v46v146v246v1246v346v1346v2346v1234"
      ++ "6v56v156v256v1256v356v1356v2356v12356v456v1456v2456v12456v3456v13456v23456v123456v7v"
      ++ "17v27v127v37v137v237v1237v47v147v247v1247v347v1347v2347v12347v57v157v257v1257v357v13"
      ++ "57v2357v12357v457v1457v2457v12457v3457v13457v23457v123457"),
    (0x2860, "aBRAILLE PATTERN DOTS-67v167v267v1267v367v1367v2367v12367v467v1467v2467v12467v3467v1"
      ++ "3467v23467v123467v567v1567v2567v12567v3567v13567v23567v123567v4567v14567v24567v12456"
      ++ "7v34567v134567v234567v1234567v8v18v28v128v38v138v238v1238v48v148v248v1248v348v1348v2"
      ++ "348v12348v58v158v258v1258v358v1358v2358v12358v458v1458v2458v12458v3458v13458v23458v1"
      ++ "23458"),
    (0x28a0, "aBRAILLE PATTERN DOTS-68v168v268v1268v368v1368v2368v12368v468v1468v2468v12468v3468v1"
      ++ "3468v23468v123468v568v1568v2568v12568v3568v13568v23568v123568v4568v14568v24568v12456"
      ++ "8v34568v134568v234568v1234568v78v178v278v1278v378v1378v2378v12378v478v1478v2478v1247"
      ++ "8v3478v13478v23478v123478v578v1578v2578v12578v3578v13578v23578v123578v4578v14578v245"
      ++ "78v124578v34578v134578v234578v1234578"),
    (0x28e0, "aBRAILLE PATTERN DOTS-678v1678v2678v12678v3678v13678v23678v123678v4678v14678v24678v1"
      ++ "24678v34678v134678v234678v1234678v5678v15678v25678v125678v35678v135678v235678v123567"
      ++ "8v45678v145678v245678v1245678v345678v1345678v2345678v12345678aRIGHTWARDS TWO-HEADED "
      ++ "ARROW WITH VERTICAL STROKEθDOUBLE VERTICAL STROKEaLEFTWARDS DOUBLE ARROW WITH VERTIC"
      ++ "AL STROKEaRIGHTWARDS DOUBLE ARROW WITH VERTICAL STROKEaLEFT RIGHT DOUBLE ARROW WITH "
      ++ "VERTICAL STROKEaRIGHTWARDS TWO-HEADED ARROW FROM BARaLEFTWARDS DOUBLE ARROW FROM BAR"
      ++ "aRIGHTWARDS DOUBLE ARROW FROM BARaDOWNWARDS ARROW WITH HORIZONTAL STROKEaUPWARDS ARR"
      ++ "OW WITH HORIZONTAL STROKEiTRIPLE ARROWaDOWNWARDS TRIPLE ARROWaLEFTWARDS DOUBLE DASH "
      ++ "ARROWaRIGHTWARDS DOUBLE DASH ARROWaLEFTWARDS TRIPLE DASH ARROWaRIGHTWARDS TRIPLE DAS"
      ++ "H ARROWmWO-HEADED TRIPLE DASH ARROWlARROW WITH DOTTED STEMaUPWARDS ARROW TO BARaDOWN"
      ++ "WARDS ARROW TO BARaRIGHTWARDS ARROW WITH TAIL WITH VERTICAL STROKEηDOUBLE VERTICAL S"
      ++ "TROKElTWO-HEADED ARROW WITH TAILμ WITH VERTICAL STROKEσDOUBLE VERTICAL STROKEaLEFTWA"
      ++ "RDS ARROW-TAILaRIGHTWARDS ARROW-TAILaLEFTWARDS DOUBLE ARROW-TAILaRIGHTWARDS DOUBLE A"
      ++ "RROW-TAILaLEFTWARDS ARROW TO BLACK DIAMONDaRIGHTWARDS ARROW TO BLACK DIAMONDaLEFTWAR"
      ++ "DS ARROW FROM BAR TO BLACK DIAMOND"),
    (0x2920, "aRIGHTWARDS ARROW FROM BAR TO BLACK DIAMONDaNORTH WEST AND SOUTH EAST ARROWgEAST AND"
      ++ " SOUTH WEST ARROWgWEST ARROW WITH HOOKgEAST ARROW WITH HOOKaSOUTH EAST ARROW WITH HO"
      ++ "OKgWEST ARROW WITH HOOKaNORTH WEST ARROW AND NORTH EAST ARROWgEAST ARROW AND SOUTH E"
      ++ "AST ARROWaSOUTH EAST ARROW AND SOUTH WEST ARROWgWEST ARROW AND NORTH WEST ARROWaRISI"
      ++ "NG DIAGONAL CROSSING FALLING DIAGONALaFALLING DIAGONAL CROSSING RISING DIAGONALaSOUT"
      ++ "H EAST ARROW CROSSING NORTH EAST ARROWaNORTH EAST ARROW CROSSING SOUTH EAST ARROWaFA"
      ++ "LLING DIAGONAL CROSSING NORTH EAST ARROWaRISING DIAGONAL CROSSING SOUTH EAST ARROWaN"
      ++ "ORTH EAST ARROW CROSSING NORTH WEST ARROWgWEST ARROW CROSSING NORTH EAST ARROWaWAVE "
      ++ "ARROW POINTING DIRECTLY RIGHTaARROW POINTING RIGHTWARDS THEN CURVING UPWARDSξDOWNWAR"
      ++ "DSpDOWNWARDS THEN CURVING LEFTWARDSνRIGHTWARDSaRIGHT-SIDE ARC CLOCKWISE ARROWaLEFT-S"
      ++ "IDE ARC ANTICLOCKWISE ARROWaTOP ARC ANTICLOCKWISE ARROWaBOTTOM ARC ANTICLOCKWISE ARR"
      ++ "OWaTOP ARC CLOCKWISE ARROW WITH MINUSiANTICLOCKWISE ARROW WITH PLUSaLOWER RIGHT SEMI"
      ++ "CIRCULAR CLOCKWISE ARROWgLEFT SEMICIRCULAR ANTICLOCKWISE ARROWaANTICLOCKWISE CLOSED "
      ++ "CIRCLE ARROWaCLOCKWISE CLOSED CIRCLE ARROWaRIGHTWARDS ARROW ABOVE SHORT LEFTWARDS AR"
      ++ "ROWaLEFTWARDS ARROW ABOVE SHORT RIGHTWARDS ARROWaSHORT RIGHTWARDS ARROW ABOVE LEFTWA"
      ++ "RDS ARROWaRIGHTWARDS ARROW WITH PLUS BELOWaLEFTWARDS ARROW WITH PLUS BELOWaRIGHTWARD"
      ++ "S ARROW THROUGH XaLEFT RIGHT ARROW THROUGH SMALL CIRCLEaUPWARDS TWO-HEADED ARROW FRO"
      ++ "M SMALL CIRCLEaLEFT BARB UP RIGHT BARB DOWN HARPOONkDOWN RIGHT BARB UP HARPOONaUP BA"
      ++ "RB RIGHT DOWN BARB LEFT HARPOONiLEFT DOWN BARB RIGHT HARPOONaLEFT BARB UP RIGHT BARB"
      ++ " UP HARPOONaUP BARB RIGHT DOWN BARB RIGHT HARPOONaLEFT BARB DOWN RIGHT BARB DOWN HAR"
      ++ "POONaUP BARB LEFT DOWN BARB LEFT HARPOONaLEFTWARDS HARPOON WITH BARB UP TO BARaRIGHT"
      ++ "WARDS HARPOON WITH BARB UP TO BARaUPWARDS HARPOON WITH BARB RIGHT TO BARaDOWNWARDS H"
      ++ "ARPOON WITH BARB RIGHT TO BARaLEFTWARDS HARPOON WITH BARB DOWN TO BARaRIGHTWARDS HAR"
      ++ "POON WITH BARB DOWN TO BARaUPWARDS HARPOON WITH BARB LEFT TO BARaDOWNWARDS HARPOON W"
      ++ "ITH BARB LEFT TO BARaLEFTWARDS HARPOON WITH BARB UP FROM BARaRIGHTWARDS HARPOON WITH"
      ++ " BARB UP FROM BARaUPWARDS HARPOON WITH BARB RIGHT FROM BARaDOWNWARDS HARPOON WITH BA"
      ++ "RB RIGHT FROM BARaLEFTWARDS HARPOON WITH BARB DOWN FROM BARaRIGHTWARDS HARPOON WITH "
      ++ "BARB DOWN FROM BAR"),
    (0x2960, "aUPWARDS HARPOON WITH BARB LEFT FROM BARaDOWNWARDS HARPOON WITH BARB LEFT FROM BARaL"
      ++ "EFTWARDS HARPOON WITH BARB UP ABOVE LEFTWARDS HARPOON WITH BARB DOWNaUPWARDS HARPOON"
      ++ " WITH BARB LEFT BESIDE UPWARDS HARPOON WITH BARB RIGHTaRIGHTWARDS HARPOON WITH BARB "
      ++ "UP ABOVE RIGHTWARDS HARPOON WITH BARB DOWNaDOWNWARDS HARPOON WITH BARB LEFT BESIDE D"
      ++ "OWNWARDS HARPOON WITH BARB RIGHTaLEFTWARDS HARPOON WITH BARB UP ABOVE RIGHTWARDS HAR"
      ++ "POON WITH BARB UPγDOWN ABOVE RIGHTWARDS HARPOON WITH BARB DOWNaRIGHTWARDS HARPOON WI"
      ++ "TH BARB UP ABOVE LEFTWARDS HARPOON WITH BARB UPδDOWN ABOVE LEFTWARDS HARPOON WITH BA"
      ++ "RB DOWNaLEFTWARDS HARPOON WITH BARB UP ABOVE LONG DASHγDOWN BELOW LONG DASHaRIGHTWAR"
      ++ "DS HARPOON WITH BARB UP ABOVE LONG DASHδDOWN BELOW LONG DASHaUPWARDS HARPOON WITH BA"
      ++ "RB LEFT BESIDE DOWNWARDS HARPOON WITH BARB RIGHTaDOWNWARDS HARPOON WITH BARB LEFT BE"
      ++ "SIDE UPWARDS HARPOON WITH BARB RIGHTaRIGHT DOUBLE ARROW WITH ROUNDED HEADaEQUALS SIG"
      ++ "N ABOVE RIGHTWARDS ARROWaTILDE OPERATOR ABOVE RIGHTWARDS ARROWaLEFTWARDS ARROW ABOVE"
      ++ " TILDE OPERATORaRIGHTWARDS ARROW ABOVE TILDE OPERATORxALMOST EQUAL TOaLESS-THAN ABOV"
      ++ "E LEFTWARDS ARROWcFTWARDS ARROW THROUGH LESS-THANaGREATER-THAN ABOVE RIGHTWARDS ARRO"
      ++ "WaSUBSET ABOVE RIGHTWARDS ARROWaLEFTWARDS ARROW THROUGH SUBSETaSUPERSET ABOVE LEFTWA"
      ++ "RDS ARROWaLEFT FISH TAILaRIGHT FISH TAILaUP FISH TAILaDOWN FISH TAILaTRIPLE VERTICAL"
      ++ " BAR DELIMITERaZ NOTATION SPOTlTYPE COLONaLEFT WHITE CURLY BRACKETaRIGHT WHITE CURLY"
      ++ " BRACKETaLEFT WHITE PARENTHESISaRIGHT WHITE PARENTHESISaZ NOTATION LEFT IMAGE BRACKE"
      ++ "TlRIGHT IMAGE BRACKETlLEFT BINDING BRACKETlRIGHT BINDING BRACKETaLEFT SQUARE BRACKET"
      ++ " WITH UNDERBARaRIGHT SQUARE BRACKET WITH UNDERBARaLEFT SQUARE BRACKET WITH TICK IN T"
      ++ "OP CORNERaRIGHT SQUARE BRACKET WITH TICK IN BOTTOM CORNERaLEFT SQUARE BRACKET WITH T"
      ++ "ICK IN BOTTOM CORNERaRIGHT SQUARE BRACKET WITH TICK IN TOP CORNERaLEFT ANGLE BRACKET"
      ++ " WITH DOTaRIGHT ANGLE BRACKET WITH DOTaLEFT ARC LESS-THAN BRACKETaRIGHT ARC GREATER-"
      ++ "THAN BRACKETaDOUBLE LEFT ARC GREATER-THAN BRACKEThRIGHT ARC LESS-THAN BRACKETaLEFT B"
      ++ "LACK TORTOISE SHELL BRACKETaRIGHT BLACK TORTOISE SHELL BRACKETaDOTTED FENCEaVERTICAL"
      ++ " ZIGZAG LINEaMEASURED ANGLE OPENING LEFTaRIGHT ANGLE VARIANT WITH SQUAREaMEASURED RI"
      ++ "GHT ANGLE WITH DOTaANGLE WITH S INSIDEbCUTE ANGLE"),
    (0x29a0, "aSPHERICAL ANGLE OPENING LEFTyUPaTURNED ANGLEaREVERSED ANGLEaANGLE WITH UNDERBARaREV"
      ++ "ERSED ANGLE WITH UNDERBARaOBLIQUE ANGLE OPENING UPwDOWNaMEASURED ANGLE WITH OPEN ARM"
      ++ " ENDING IN ARROW POINTING UP AND RIGHTωTING UP AND LEFTωTING DOWN AND RIGHTωTING DOW"
      ++ "N AND LEFTωTING RIGHT AND UPωTING LEFT AND UPωTING RIGHT AND DOWNωTING LEFT AND DOWN"
      ++ "aREVERSED EMPTY SETaEMPTY SET WITH OVERBARpSMALL CIRCLE ABOVEpRIGHT ARROW ABOVEpLEFT"
      ++ " ARROW ABOVEaCIRCLE WITH HORIZONTAL BARgD VERTICAL BARiPARALLELiREVERSE SOLIDUSiPERP"
      ++ "ENDICULARg DIVIDED BY HORIZONTAL BAR AND TOP HALF DIVIDED BY VERTICAL BARhWITH SUPER"
      ++ "IMPOSED XgD ANTICLOCKWISE-ROTATED DIVISION SIGNaUP ARROW THROUGH CIRCLEaCIRCLED WHIT"
      ++ "E BULLETiBULLETiLESS-THANiGREATER-THANg WITH SMALL CIRCLE TO THE RIGHTmTWO HORIZONTA"
      ++ "L STROKES TO THE RIGHTaSQUARED RISING DIAGONAL SLASHiFALLING DIAGONAL SLASHiASTERISK"
      ++ "iSMALL CIRCLEjQUAREaTWO JOINED SQUARESbRIANGLE WITH DOT ABOVEoUNDERBARaS IN TRIANGLE"
      ++ "aTRIANGLE WITH SERIFS AT BOTTOMaRIGHT TRIANGLE ABOVE LEFT TRIANGLEaLEFT TRIANGLE BES"
      ++ "IDE VERTICAL BARaVERTICAL BAR BESIDE RIGHT TRIANGLEaBOWTIE WITH LEFT HALF BLACKmRIGH"
      ++ "T HALF BLACKbLACK BOWTIEaTIMES WITH LEFT HALF BLACKlRIGHT HALF BLACKaWHITE HOURGLASS"
      ++ "aBLACK HOURGLASSaLEFT WIGGLY FENCEaRIGHT WIGGLY FENCEaLEFT DOUBLE WIGGLY FENCEaRIGHT"
      ++ " DOUBLE WIGGLY FENCEaINCOMPLETE INFINITYaTIE OVER INFINITYaINFINITY NEGATED WITH VER"
      ++ "TICAL BARaDOUBLE-ENDED MULTIMAP"),
    (0x29e0, "aSQUARE WITH CONTOURED OUTLINEaINCREASES ASaSHUFFLE PRODUCTaEQUALS SIGN AND SLANTED "
      ++ "PARALLELη WITH TILDE ABOVEaIDENTICAL TO AND SLANTED PARALLELaGLEICH STARKaTHERMODYNA"
      ++ "MICaDOWN-POINTING TRIANGLE WITH LEFT HALF BLACKγRIGHT HALF BLACKaBLACK DIAMOND WITH "
      ++ "DOWN ARROWgLOZENGEaWHITE CIRCLE WITH DOWN ARROWaBLACK CIRCLE WITH DOWN ARROWaERROR-B"
      ++ "ARRED WHITE SQUAREnBLACK SQUAREnWHITE DIAMONDnBLACK DIAMONDnWHITE CIRCLEnBLACK CIRCL"
      ++ "EaRULE-DELAYEDbEVERSE SOLIDUS OPERATORaSOLIDUS WITH OVERBARaREVERSE SOLIDUS WITH HOR"
      ++ "IZONTAL STROKEaBIG SOLIDUSeREVERSE SOLIDUSaDOUBLE PLUSaTRIPLE PLUSaLEFT-POINTING CUR"
      ++ "VED ANGLE BRACKETaRIGHT-POINTING CURVED ANGLE BRACKETaTINYaMINYaN-ARY CIRCLED DOT OP"
      ++ "ERATORoPLUS OPERATORoTIMES OPERATORgUNION OPERATOR WITH DOTαPLUSgSQUARE INTERSECTION"
      ++ " OPERATORnUNION OPERATORaTWO LOGICAL AND OPERATORmOR OPERATORaN-ARY TIMES OPERATORaM"
      ++ "ODULO TWO SUMaSUMMATION WITH INTEGRALaQUADRUPLE INTEGRAL OPERATORaFINITE PART INTEGR"
      ++ "ALaINTEGRAL WITH DOUBLE STROKEjAVERAGE WITH SLASHaCIRCULATION FUNCTIONaANTICLOCKWISE"
      ++ " INTEGRATIONaLINE INTEGRATION WITH RECTANGULAR PATH AROUND POLEwSEMICIRCULAR PATH AR"
      ++ "OUND POLErNOT INCLUDING THE POLEaINTEGRAL AROUND A POINT OPERATORaQUATERNION INTEGRA"
      ++ "L OPERATORaINTEGRAL WITH LEFTWARDS ARROW WITH HOOKoTIMES SIGNoINTERSECTIONoUNIONoOVE"
      ++ "RBARoUNDERBARaJOINaLARGE LEFT TRIANGLE OPERATORaZ NOTATION SCHEMA COMPOSITION"),
    (0x2a20, "aZ NOTATION SCHEMA PIPINGtROJECTIONaPLUS SIGN WITH SMALL CIRCLE ABOVEpCIRCUMFLEX ACC"
      ++ "ENT ABOVEpTILDE ABOVEpDOT BELOWpTILDE BELOWpSUBSCRIPT TWOpBLACK TRIANGLEaMINUS SIGN "
      ++ "WITH COMMA ABOVEqDOT BELOWqFALLING DOTSqRISING DOTSaPLUS SIGN IN LEFT HALF CIRCLEnRI"
      ++ "GHT HALF CIRCLEaVECTOR OR CROSS PRODUCTaMULTIPLICATION SIGN WITH DOT ABOVEzUNDERBARa"
      ++ "SEMIDIRECT PRODUCT WITH BOTTOM CLOSEDbMASH PRODUCTaMULTIPLICATION SIGN IN LEFT HALF "
      ++ "CIRCLExRIGHT HALF CIRCLEaCIRCLED MULTIPLICATION SIGN WITH CIRCUMFLEX ACCENTaMULTIPLI"
      ++ "CATION SIGN IN DOUBLE CIRCLEaCIRCLED DIVISION SIGNaPLUS SIGN IN TRIANGLEaMINUS SIGN "
      ++ "IN TRIANGLEbULTIPLICATION SIGN IN TRIANGLEaINTERIOR PRODUCTaRIGHTHAND INTERIOR PRODU"
      ++ "CTaZ NOTATION RELATIONAL COMPOSITIONaAMALGAMATION OR COPRODUCTaINTERSECTION WITH DOT"
      ++ "aUNION WITH MINUS SIGNlOVERBARaINTERSECTION WITH OVERBARsLOGICAL ANDaUNION WITH LOGI"
      ++ "CAL ORgABOVE INTERSECTIONaINTERSECTION ABOVE UNIONaUNION ABOVE BAR ABOVE INTERSECTIO"
      ++ "NaINTERSECTION ABOVE BAR ABOVE UNIONaUNION BESIDE AND JOINED WITH UNIONaINTERSECTION"
      ++ " BESIDE AND JOINED WITH INTERSECTIONaCLOSED UNION WITH SERIFShINTERSECTION WITH SERI"
      ++ "FSaDOUBLE SQUARE INTERSECTIONoUNIONaCLOSED UNION WITH SERIFS AND SMASH PRODUCTaLOGIC"
      ++ "AL AND WITH DOT ABOVEiOR WITH DOT ABOVEaDOUBLE LOGICAL ANDpORaTWO INTERSECTING LOGIC"
      ++ "AL ANDzORaSLOPING LARGE ORoANDaLOGICAL OR OVERLAPPING LOGICAL ANDiAND WITH MIDDLE ST"
      ++ "EMiOR WITH MIDDLE STEMiAND WITH HORIZONTAL DASHiOR WITH HORIZONTAL DASHiAND WITH DOU"
      ++ "BLE OVERBARrUNDERBAR"),
    (0x2a60, "aLOGICAL AND WITH DOUBLE UNDERBARaSMALL VEE WITH UNDERBARaLOGICAL OR WITH DOUBLE OVE"
      ++ "RBARxUNDERBARaZ NOTATION DOMAIN ANTIRESTRICTIONlRANGE ANTIRESTRICTIONaEQUALS SIGN WI"
      ++ "TH DOT BELOWaIDENTICAL WITH DOT ABOVEaTRIPLE HORIZONTAL BAR WITH DOUBLE VERTICAL STR"
      ++ "OKEβTRIPLE VERTICAL STROKEbILDE OPERATOR WITH DOT ABOVEuRISING DOTSaSIMILAR MINUS SI"
      ++ "MILARaCONGRUENT WITH DOT ABOVEaEQUALS WITH ASTERISKaALMOST EQUAL TO WITH CIRCUMFLEX "
      ++ "ACCENTbPPROXIMATELY EQUAL OR EQUAL TOaEQUALS SIGN ABOVE PLUS SIGNaPLUS SIGN ABOVE EQ"
      ++ "UALS SIGNaEQUALS SIGN ABOVE TILDE OPERATORaDOUBLE COLON EQUALaTWO CONSECUTIVE EQUALS"
      ++ " SIGNSbHREE CONSECUTIVE EQUALS SIGNSaEQUALS SIGN WITH TWO DOTS ABOVE AND TWO DOTS BE"
      ++ "LOWdIVALENT WITH FOUR DOTS ABOVEaLESS-THAN WITH CIRCLE INSIDEaGREATER-THAN WITH CIRC"
      ++ "LE INSIDEaLESS-THAN WITH QUESTION MARK ABOVEaGREATER-THAN WITH QUESTION MARK ABOVEaL"
      ++ "ESS-THAN OR SLANTED EQUAL TOaGREATER-THAN OR SLANTED EQUAL TOaLESS-THAN OR SLANTED E"
      ++ "QUAL TO WITH DOT INSIDEaGREATER-THAN OR SLANTED EQUAL TO WITH DOT INSIDEaLESS-THAN O"
      ++ "R SLANTED EQUAL TO WITH DOT ABOVEaGREATER-THAN OR SLANTED EQUAL TO WITH DOT ABOVEaLE"
      ++ "SS-THAN OR SLANTED EQUAL TO WITH DOT ABOVE RIGHTaGREATER-THAN OR SLANTED EQUAL TO WI"
      ++ "TH DOT ABOVE LEFTaLESS-THAN OR APPROXIMATEaGREATER-THAN OR APPROXIMATEaLESS-THAN AND"
      ++ " SINGLE-LINE NOT EQUAL TOaGREATER-THAN AND SINGLE-LINE NOT EQUAL TOaLESS-THAN AND NO"
      ++ "T APPROXIMATEaGREATER-THAN AND NOT APPROXIMATEaLESS-THAN ABOVE DOUBLE-LINE EQUAL ABO"
      ++ "VE GREATER-THANaGREATER-THAN ABOVE DOUBLE-LINE EQUAL ABOVE LESS-THANaLESS-THAN ABOVE"
      ++ " SIMILAR OR EQUALaGREATER-THAN ABOVE SIMILAR OR EQUALaLESS-THAN ABOVE SIMILAR ABOVE "
      ++ "GREATER-THANaGREATER-THAN ABOVE SIMILAR ABOVE LESS-THANaLESS-THAN ABOVE GREATER-THAN"
      ++ " ABOVE DOUBLE-LINE EQUALaGREATER-THAN ABOVE LESS-THAN ABOVE DOUBLE-LINE EQUALaLESS-T"
      ++ "HAN ABOVE SLANTED EQUAL ABOVE GREATER-THAN ABOVE SLANTED EQUALaGREATER-THAN ABOVE SL"
      ++ "ANTED EQUAL ABOVE LESS-THAN ABOVE SLANTED EQUALaSLANTED EQUAL TO OR LESS-THANuGREATE"
      ++ "R-THANuLESS-THAN WITH DOT INSIDEuGREATER-THAN WITH DOT INSIDEaDOUBLE-LINE EQUAL TO O"
      ++ "R LESS-THANyGREATER-THANmSLANTED EQUAL TO OR LESS-THANηGREATER-THANaSIMILAR OR LESS-"
      ++ "THANlGREATER-THANiABOVE LESS-THAN ABOVE EQUALS SIGN"),
    (0x2aa0, "aSIMILAR ABOVE GREATER-THAN ABOVE EQUALS SIGNaDOUBLE NESTED LESS-THANoGREATER-THANoL"
      ++ "ESS-THAN WITH UNDERBARaGREATER-THAN OVERLAPPING LESS-THANnBESIDE LESS-THANaLESS-THAN"
      ++ " CLOSED BY CURVEaGREATER-THAN CLOSED BY CURVEaLESS-THAN CLOSED BY CURVE ABOVE SLANTE"
      ++ "D EQUALaGREATER-THAN CLOSED BY CURVE ABOVE SLANTED EQUALaSMALLER THANaLARGER THANaSM"
      ++ "ALLER THAN OR EQUAL TOaLARGER THAN OR EQUAL TOaEQUALS SIGN WITH BUMPY ABOVEaPRECEDES"
      ++ " ABOVE SINGLE-LINE EQUALS SIGNaSUCCEEDS ABOVE SINGLE-LINE EQUALS SIGNaPRECEDES ABOVE"
      ++ " SINGLE-LINE NOT EQUAL TOaSUCCEEDS ABOVE SINGLE-LINE NOT EQUAL TOaPRECEDES ABOVE EQU"
      ++ "ALS SIGNaSUCCEEDS ABOVE EQUALS SIGNaPRECEDES ABOVE NOT EQUAL TOaSUCCEEDS ABOVE NOT E"
      ++ "QUAL TOaPRECEDES ABOVE ALMOST EQUAL TOaSUCCEEDS ABOVE ALMOST EQUAL TOaPRECEDES ABOVE"
      ++ " NOT ALMOST EQUAL TOaSUCCEEDS ABOVE NOT ALMOST EQUAL TOaDOUBLE PRECEDEShSUCCEEDSaSUB"
      ++ "SET WITH DOTcPERSET WITH DOTcBSET WITH PLUS SIGN BELOWcPERSET WITH PLUS SIGN BELOWcB"
      ++ "SET WITH MULTIPLICATION SIGN BELOWcPERSET WITH MULTIPLICATION SIGN BELOWcBSET OF OR "
      ++ "EQUAL TO WITH DOT ABOVEcPERSET OF OR EQUAL TO WITH DOT ABOVEcBSET OF ABOVE EQUALS SI"
      ++ "GNcPERSET OF ABOVE EQUALS SIGNcBSET OF ABOVE TILDE OPERATORcPERSET OF ABOVE TILDE OP"
      ++ "ERATORcBSET OF ABOVE ALMOST EQUAL TOcPERSET OF ABOVE ALMOST EQUAL TOcBSET OF ABOVE N"
      ++ "OT EQUAL TOcPERSET OF ABOVE NOT EQUAL TObQUARE LEFT OPEN BOX OPERATORhRIGHT OPEN BOX"
      ++ " OPERATORaCLOSED SUBSETjPERSETjBSET OR EQUAL TOjPERSET OR EQUAL TOaSUBSET ABOVE SUPE"
      ++ "RSETcPERSET ABOVE SUBSETcBSET ABOVE SUBSETcPERSET ABOVE SUPERSETjBESIDE SUBSETqAND J"
      ++ "OINED BY DASH WITH SUBSETaELEMENT OF OPENING DOWNWARDSaPITCHFORK WITH TEE TOPaTRANSV"
      ++ "ERSAL INTERSECTIONaFORKINGaNONFORKINGaSHORT LEFT TACKgDOWN TACK"),
    (0x2ae0, "aSHORT UP TACKaPERPENDICULAR WITH SaVERTICAL BAR TRIPLE RIGHT TURNSTILEaDOUBLE VERTI"
      ++ "CAL BAR LEFT TURNSTILEaVERTICAL BAR DOUBLE LEFT TURNSTILEaDOUBLE VERTICAL BAR DOUBLE"
      ++ " LEFT TURNSTILEaLONG DASH FROM LEFT MEMBER OF DOUBLE VERTICALaSHORT DOWN TACK WITH O"
      ++ "VERBARgUP TACK WITH UNDERBARoABOVE SHORT DOWN TACKaDOUBLE DOWN TACKhUP TACKhSTROKE N"
      ++ "OT SIGNaREVERSED DOUBLE STROKE NOT SIGNaDOES NOT DIVIDE WITH REVERSED NEGATION SLASH"
      ++ "aVERTICAL LINE WITH CIRCLE ABOVEαBELOWaDOWN TACK WITH CIRCLE BELOWaPARALLEL WITH HOR"
      ++ "IZONTAL STROKEoTILDE OPERATORaTRIPLE VERTICAL BAR BINARY RELATIONuWITH HORIZONTAL ST"
      ++ "ROKEhCOLON OPERATORhNESTED LESS-THANoGREATER-THANaDOUBLE-LINE SLANTED LESS-THAN OR E"
      ++ "QUAL TOuGREATER-THAN OR EQUAL TOaTRIPLE SOLIDUS BINARY RELATIONaLARGE TRIPLE VERTICA"
      ++ "L BAR OPERATORaDOUBLE SOLIDUS OPERATORaWHITE VERTICAL BARaN-ARY WHITE VERTICAL BARbO"
      ++ "RTH EAST WHITE ARROWgWEST WHITE ARROWaSOUTH EAST WHITE ARROWgWEST WHITE ARROWaLEFT R"
      ++ "IGHT WHITE ARROWeWARDS BLACK ARROWaUPWARDS BLACK ARROWaDOWNWARDS BLACK ARROWaNORTH E"
      ++ "AST BLACK ARROWgWEST BLACK ARROWaSOUTH EAST BLACK ARROWgWEST BLACK ARROWaLEFT RIGHT "
      ++ "BLACK ARROWaUP DOWN BLACK ARROWaRIGHTWARDS ARROW WITH TIP DOWNWARDSαUPWARDSaLEFTWARD"
      ++ "S ARROW WITH TIP DOWNWARDSzUPWARDSaSQUARE WITH TOP HALF BLACKmBOTTOM HALF BLACKmUPPE"
      ++ "R RIGHT DIAGONAL HALF BLACKmLOWER LEFT DIAGONAL HALF BLACKaDIAMOND WITH LEFT HALF BL"
      ++ "ACKnRIGHT HALF BLACKnTOP HALF BLACKnBOTTOM HALF BLACKbOTTED SQUAREaBLACK LARGE SQUAR"
      ++ "EaWHITE LARGE SQUAREaBLACK VERY SMALL SQUAREaWHITE VERY SMALL SQUAREaBLACK PENTAGON"),
    (0x2b20, "aWHITE PENTAGONgHEXAGONaBLACK HEXAGONaHORIZONTAL BLACK HEXAGONaBLACK LARGE CIRCLEgME"
      ++ "DIUM DIAMONDaWHITE MEDIUM DIAMONDaBLACK MEDIUM LOZENGEaWHITE MEDIUM LOZENGEaBLACK SM"
      ++ "ALL DIAMONDmLOZENGEaWHITE SMALL LOZENGEaBLACK HORIZONTAL ELLIPSEaWHITE HORIZONTAL EL"
      ++ "LIPSEaBLACK VERTICAL ELLIPSEaWHITE VERTICAL ELLIPSEaLEFT ARROW WITH SMALL CIRCLEaTHR"
      ++ "EE LEFTWARDS ARROWSaLEFT ARROW WITH CIRCLED PLUSbONG LEFTWARDS SQUIGGLE ARROWbEFTWAR"
      ++ "DS TWO-HEADED ARROW WITH VERTICAL STROKEηDOUBLE VERTICAL STROKEβFROM BARvTRIPLE DASH"
      ++ " ARROWkARROW WITH DOTTED STEMvTAIL WITH VERTICAL STROKEζDOUBLE VERTICAL STROKEkTWO-H"
      ++ "EADED ARROW WITH TAILλ WITH VERTICAL STROKEρDOUBLE VERTICAL STROKEkARROW THROUGH XaW"
      ++ "AVE ARROW POINTING DIRECTLY LEFTaEQUALS SIGN ABOVE LEFTWARDS ARROWaREVERSE TILDE OPE"
      ++ "RATOR ABOVE LEFTWARDS ARROWaLEFTWARDS ARROW ABOVE REVERSE ALMOST EQUAL TOaRIGHTWARDS"
      ++ " ARROW THROUGH GREATER-THANzSUPERSETaLEFTWARDS QUADRUPLE ARROWaRIGHTWARDS QUADRUPLE "
      ++ "ARROWbEVERSE TILDE OPERATOR ABOVE RIGHTWARDS ARROWbIGHTWARDS ARROW ABOVE REVERSE ALM"
      ++ "OST EQUAL TOaTILDE OPERATOR ABOVE LEFTWARDS ARROWaLEFTWARDS ARROW ABOVE ALMOST EQUAL"
      ++ " TOwREVERSE TILDE OPERATORaRIGHTWARDS ARROW ABOVE REVERSE TILDE OPERATORaDOWNWARDS T"
      ++ "RIANGLE-HEADED ZIGZAG ARROWaSHORT SLANTED NORTH ARROWgBACKSLANTED SOUTH ARROWaWHITE "
      ++ "MEDIUM STARaBLACK SMALL STARaWHITE SMALL STARaBLACK RIGHT-POINTING PENTAGONaWHITE RI"
      ++ "GHT-POINTING PENTAGONaHEAVY LARGE CIRCLEgOVAL WITH OVAL INSIDEgCIRCLE WITH CIRCLE IN"
      ++ "SIDEmmD SALTIREaSLANTED NORTH ARROW WITH HOOKED HEADaBACKSLANTED SOUTH ARROW WITH HO"
      ++ "OKED TAILaSLANTED NORTH ARROW WITH HORIZONTAL TAILaBACKSLANTED SOUTH ARROW WITH HORI"
      ++ "ZONTAL TAILbENT ARROW POINTING DOWNWARDS THEN NORTH EASTaSHORT BENT ARROW POINTING D"
      ++ "OWNWARDS THEN NORTH EAST"),
    (0x2b60, "aLEFTWARDS TRIANGLE-HEADED ARROWaUPWARDS TRIANGLE-HEADED ARROWaRIGHTWARDS TRIANGLE-H"
      ++ "EADED ARROWaDOWNWARDS TRIANGLE-HEADED ARROWaLEFT RIGHT TRIANGLE-HEADED ARROWaUP DOWN"
      ++ " TRIANGLE-HEADED ARROWaNORTH WEST TRIANGLE-HEADED ARROWgEAST TRIANGLE-HEADED ARROWaS"
      ++ "OUTH EAST TRIANGLE-HEADED ARROWgWEST TRIANGLE-HEADED ARROWaLEFTWARDS TRIANGLE-HEADED"
      ++ " DASHED ARROWaUPWARDS TRIANGLE-HEADED DASHED ARROWaRIGHTWARDS TRIANGLE-HEADED DASHED"
      ++ " ARROWaDOWNWARDS TRIANGLE-HEADED DASHED ARROWaCLOCKWISE TRIANGLE-HEADED OPEN CIRCLE "
      ++ "ARROWaANTICLOCKWISE TRIANGLE-HEADED OPEN CIRCLE ARROWaLEFTWARDS TRIANGLE-HEADED ARRO"
      ++ "W TO BARaUPWARDS TRIANGLE-HEADED ARROW TO BARaRIGHTWARDS TRIANGLE-HEADED ARROW TO BA"
      ++ "RaDOWNWARDS TRIANGLE-HEADED ARROW TO BAR"),
    (0x2b76, "aNORTH WEST TRIANGLE-HEADED ARROW TO BARgEAST TRIANGLE-HEADED ARROW TO BARaSOUTH EAS"
      ++ "T TRIANGLE-HEADED ARROW TO BARgWEST TRIANGLE-HEADED ARROW TO BARaLEFTWARDS TRIANGLE-"
      ++ "HEADED ARROW WITH DOUBLE HORIZONTAL STROKEaUPWARDS TRIANGLE-HEADED ARROW WITH DOUBLE"
      ++ " HORIZONTAL STROKEaRIGHTWARDS TRIANGLE-HEADED ARROW WITH DOUBLE HORIZONTAL STROKEaDO"
      ++ "WNWARDS TRIANGLE-HEADED ARROW WITH DOUBLE HORIZONTAL STROKEaHORIZONTAL TAB KEYaVERTI"
      ++ "CAL TAB KEYaLEFTWARDS TRIANGLE-HEADED ARROW OVER RIGHTWARDS TRIANGLE-HEADED ARROWaUP"
      ++ "WARDS TRIANGLE-HEADED ARROW LEFTWARDS OF DOWNWARDS TRIANGLE-HEADED ARROWaRIGHTWARDS "
      ++ "TRIANGLE-HEADED ARROW OVER LEFTWARDS TRIANGLE-HEADED ARROWaDOWNWARDS TRIANGLE-HEADED"
      ++ " ARROW LEFTWARDS OF UPWARDS TRIANGLE-HEADED ARROWaLEFTWARDS TRIANGLE-HEADED PAIRED A"
      ++ "RROWSaUPWARDS TRIANGLE-HEADED PAIRED ARROWSaRIGHTWARDS TRIANGLE-HEADED PAIRED ARROWS"
      ++ "aDOWNWARDS TRIANGLE-HEADED PAIRED ARROWSaLEFTWARDS BLACK CIRCLED WHITE ARROWaUPWARDS"
      ++ " BLACK CIRCLED WHITE ARROWaRIGHTWARDS BLACK CIRCLED WHITE ARROWaDOWNWARDS BLACK CIRC"
      ++ "LED WHITE ARROWaANTICLOCKWISE TRIANGLE-HEADED RIGHT U-SHAPED ARROWεBOTTOM U-SHAPED A"
      ++ "RROWεLEFT U-SHAPED ARROWεTOP U-SHAPED ARROWaRETURN LEFThRIGHTaNEWLINE LEFTiRIGHTaFOU"
      ++ "R CORNER ARROWS CIRCLING ANTICLOCKWISEaRIGHTWARDS BLACK ARROW"),
    (0x2b97, "aSYMBOL FOR TYPE A ELECTRONICSaTHREE-D TOP-LIGHTED LEFTWARDS EQUILATERAL ARROWHEADiR"
      ++ "IGHT-LIGHTED UPWARDS EQUILATERAL ARROWHEADiTOP-LIGHTED RIGHTWARDS EQUILATERAL ARROWH"
      ++ "EADiLEFT-LIGHTED DOWNWARDS EQUILATERAL ARROWHEADaBLACK LEFTWARDS EQUILATERAL ARROWHE"
      ++ "ADgUPWARDS EQUILATERAL ARROWHEADgRIGHTWARDS EQUILATERAL ARROWHEADgDOWNWARDS EQUILATE"
      ++ "RAL ARROWHEADaDOWNWARDS TRIANGLE-HEADED ARROW WITH LONG TIP LEFTWARDSφRIGHTWARDSaUPW"
      ++ "ARDS TRIANGLE-HEADED ARROW WITH LONG TIP LEFTWARDSτRIGHTWARDSaLEFTWARDS TRIANGLE-HEA"
      ++ "DED ARROW WITH LONG TIP UPWARDSaRIGHTWARDS TRIANGLE-HEADED ARROW WITH LONG TIP UPWAR"
      ++ "DSaLEFTWARDS TRIANGLE-HEADED ARROW WITH LONG TIP DOWNWARDSaRIGHTWARDS TRIANGLE-HEADE"
      ++ "D ARROW WITH LONG TIP DOWNWARDSaBLACK CURVED DOWNWARDS AND LEFTWARDS ARROWβRIGHTWARD"
      ++ "S ARROWnUPWARDS AND LEFTWARDS ARROWzRIGHTWARDS ARROWnLEFTWARDS AND UPWARDS ARROWnRIG"
      ++ "HTWARDS AND UPWARDS ARROWnLEFTWARDS AND DOWNWARDS ARROWnRIGHTWARDS AND DOWNWARDS ARR"
      ++ "OWaRIBBON ARROW DOWN LEFTsRIGHTnUP LEFTqRIGHTnLEFT UPnRIGHT UPnLEFT DOWNnRIGHT DOWNa"
      ++ "UPWARDS WHITE ARROW FROM BAR WITH HORIZONTAL BARc ARROWHEAD IN A RECTANGLE BOXaOVERL"
      ++ "APPING WHITE SQUARESsAND BLACK SQUARESmBLACK SQUARESaBALLOT BOX WITH LIGHT XaCIRCLED"
      ++ " XiBOLD XaBLACK SQUARE CENTREDgDIAMOND CENTREDaTURNED BLACK PENTAGONaHORIZONTAL BLAC"
      ++ "K OCTAGONaBLACK OCTAGONgMEDIUM UP-POINTING TRIANGLE CENTREDnDOWN-POINTING TRIANGLE C"
      ++ "ENTREDnLEFT-POINTING TRIANGLE CENTREDnRIGHT-POINTING TRIANGLE CENTREDaNEPTUNE FORM T"
      ++ "WOaTOP HALF BLACK CIRCLEaBOTTOM HALF BLACK CIRCLEaLIGHT FOUR POINTED BLACK CUSPaROTA"
      ++ "TED LIGHT FOUR POINTED BLACK CUSPaWHITE FOUR POINTED CUSPaROTATED WHITE FOUR POINTED"
      ++ " CUSPaSQUARE POSITION INDICATORaUNCERTAINTY SIGNaGROUP MARKaPLUTO FORM TWOmHREElFOUR"
      ++ "mIVE"),
    (0x2bd7, "aTRANSPLUTOaPROSERPINAaASTRAEAaHYGIEAaPHOLUSaNESSUSaWHITE MOON SELENAaBLACK DIAMOND "
      ++ "ON CROSSaTRUE LIGHT MOON ARTAaCUPIDOaHADESaZEUSaKRONOSaAPOLLONbDMETOSaVULCANUSaPOSEI"
      ++ "DONaLEFT HALF BLACK STARaRIGHT HALF BLACK STARaSTAR WITH LEFT HALF BLACKkRIGHT HALF "
      ++ "BLACKaLEFTWARDS TWO-HEADED ARROW WITH TRIANGLE ARROWHEADSaUPWARDS TWO-HEADED ARROW W"
      ++ "ITH TRIANGLE ARROWHEADSaRIGHTWARDS TWO-HEADED ARROW WITH TRIANGLE ARROWHEADSaDOWNWAR"
      ++ "DS TWO-HEADED ARROW WITH TRIANGLE ARROWHEADSaERIS FORM ONEkTWOaSEDNAaRUSSIAN ASTROLO"
      ++ "GICAL SYMBOL VIGINTILEγNOVILEγQUINTILEγBINOVILEγSENTAGONγTREDECILEaEQUALS SIGN WITH "
      ++ "INFINITY BELOWaUNITED SYMBOLaSEPARATED SYMBOLaDOUBLED SYMBOLaPASSED SYMBOLaREVERSED "
      ++ "RIGHT ANGLEaHELLSCHREIBER PAUSE SYMBOLaGLAGOLITIC CAPITAL LETTER AZUαBUKYαVEDEαGLAGO"
      ++ "LIαDOBROαYESTUαZHIVETEαDZELOαZEMLJAαIZHEβNITIAL IZHEβαDJERVIαKAKOαLJUDIJEαMYSLITEαNA"
      ++ "SHIαONUαPOKOJIαRITSIαSLOVOαTVRIDOαUKU"),
    (0x2c17, "aGLAGOLITIC CAPITAL LETTER FRITUαHERUαOTUαPEαSHTAαTSIαCHRIVIαSHAαYERUδIβATIαSPIDERY "
      ++ "HAαYUαSMALL YUSκ WITH TAILαYOαIOTATED SMALL YUSαBIG YUSαIOTATED BIG YUSαFITAαIZHITSA"
      ++ "αSHTAPICαTROKUTASTI AαLATINATE MYSLITEαCAUDATE CHRIVIlSMALL LETTER AZUyBUKYyVEDEyGLA"
      ++ "GOLIyDOBROyYESTUyZHIVETEyDZELOyZEMLJAyIZHEzNITIAL IZHEzyDJERVIyKAKOyLJUDIJEyMYSLITEy"
      ++ "NASHIyONUyPOKOJIyRITSIySLOVOyTVRIDOyUKUyFRITUyHERUyOTUyPEySHTAyTSIyCHRIVIySHAyYERUβI"
      ++ "zATIySPIDERY HAyYUySMALL YUSθ WITH TAILyYO"),
    (0x2c57, "aGLAGOLITIC SMALL LETTER IOTATED SMALL YUSyBIG YUSyIOTATED BIG YUSyFITAyIZHITSAySHTA"
      ++ "PICyTROKUTASTI AyLATINATE MYSLITEyCAUDATE CHRIVIaLATIN CAPITAL LETTER L WITH DOUBLE "
      ++ "BARgSMALL LETTER L WITH DOUBLE BARgCAPITAL LETTER L WITH MIDDLE TILDEvP WITH STROKEv"
      ++ "R WITH TAILgSMALL LETTER A WITH STROKEtT WITH DIAGONAL STROKEgCAPITAL LETTER H WITH "
      ++ "DESCENDERgSMALL LETTER H WITH DESCENDERgCAPITAL LETTER K WITH DESCENDERgSMALL LETTER"
      ++ " K WITH DESCENDERgCAPITAL LETTER Z WITH DESCENDERgSMALL LETTER Z WITH DESCENDERgCAPI"
      ++ "TAL LETTER ALPHAvM WITH HOOKvTURNED AδLPHAgSMALL LETTER V WITH RIGHT HOOKgCAPITAL LE"
      ++ "TTER W WITH HOOKgSMALL LETTER W WITH HOOKtV WITH CURLgCAPITAL LETTER HALF HgSMALL LE"
      ++ "TTER HALF HtTAILLESS PHItE WITH NOTCHtTURNED R WITH TAILtO WITH LOW RING INSIDEgLETT"
      ++ "ER SMALL CAPITAL TURNED EgSUBSCRIPT SMALL LETTER JaMODIFIER LETTER CAPITAL VaLATIN C"
      ++ "APITAL LETTER S WITH SWASH TAILvZ WITH SWASH TAILaCOPTIC CAPITAL LETTER ALFAhSMALL L"
      ++ "ETTER ALFAhCAPITAL LETTER VIDAhSMALL LETTER VIDAhCAPITAL LETTER GAMMAhSMALL LETTER G"
      ++ "AMMAhCAPITAL LETTER DALDAhSMALL LETTER DALDAhCAPITAL LETTER EIEhSMALL LETTER EIEhCAP"
      ++ "ITAL LETTER SOUhSMALL LETTER SOUhCAPITAL LETTER ZATAhSMALL LETTER ZATAhCAPITAL LETTE"
      ++ "R HATEhSMALL LETTER HATEhCAPITAL LETTER THETHEhSMALL LETTER THETHEhCAPITAL LETTER IA"
      ++ "UDAhSMALL LETTER IAUDAhCAPITAL LETTER KAPAhSMALL LETTER KAPAhCAPITAL LETTER LAULA"),
    (0x2c97, "aCOPTIC SMALL LETTER LAULAhCAPITAL LETTER MIhSMALL LETTER MIhCAPITAL LETTER NIhSMALL"
      ++ " LETTER NIhCAPITAL LETTER KSIhSMALL LETTER KSIhCAPITAL LETTER OhSMALL LETTER OhCAPIT"
      ++ "AL LETTER PIhSMALL LETTER PIhCAPITAL LETTER ROhSMALL LETTER ROhCAPITAL LETTER SIMAhS"
      ++ "MALL LETTER SIMAhCAPITAL LETTER TAUhSMALL LETTER TAUhCAPITAL LETTER UAhSMALL LETTER "
      ++ "UAhCAPITAL LETTER FIhSMALL LETTER FIhCAPITAL LETTER KHIhSMALL LETTER KHIhCAPITAL LET"
      ++ "TER PSIhSMALL LETTER PSIhCAPITAL LETTER OOUhSMALL LETTER OOUhCAPITAL LETTER DIALECT-"
      ++ "P ALEFhSMALL LETTER DIALECT-P ALEFhCAPITAL LETTER OLD COPTIC AINhSMALL LETTER OLD CO"
      ++ "PTIC AINhCAPITAL LETTER CRYPTOGRAMMIC EIEhSMALL LETTER CRYPTOGRAMMIC EIEhCAPITAL LET"
      ++ "TER DIALECT-P KAPAhSMALL LETTER DIALECT-P KAPAhCAPITAL LETTER DIALECT-P NIhSMALL LET"
      ++ "TER DIALECT-P NIhCAPITAL LETTER CRYPTOGRAMMIC NIhSMALL LETTER CRYPTOGRAMMIC NIhCAPIT"
      ++ "AL LETTER OLD COPTIC OOUhSMALL LETTER OLD COPTIC OOUhCAPITAL LETTER SAMPIhSMALL LETT"
      ++ "ER SAMPIhCAPITAL LETTER CROSSED SHEIhSMALL LETTER CROSSED SHEIhCAPITAL LETTER OLD CO"
      ++ "PTIC SHEIhSMALL LETTER OLD COPTIC SHEIhCAPITAL LETTER OLD COPTIC ESHhSMALL LETTER OL"
      ++ "D COPTIC ESHhCAPITAL LETTER AKHMIMIC KHEIhSMALL LETTER AKHMIMIC KHEIhCAPITAL LETTER "
      ++ "DIALECT-P HORIhSMALL LETTER DIALECT-P HORIhCAPITAL LETTER OLD COPTIC HORIhSMALL LETT"
      ++ "ER OLD COPTIC HORIhCAPITAL LETTER OLD COPTIC HAhSMALL LETTER OLD COPTIC HAhCAPITAL L"
      ++ "ETTER L-SHAPED HAhSMALL LETTER L-SHAPED HAhCAPITAL LETTER OLD COPTIC HEIhSMALL LETTE"
      ++ "R OLD COPTIC HEIhCAPITAL LETTER OLD COPTIC HAThSMALL LETTER OLD COPTIC HAThCAPITAL L"
      ++ "ETTER OLD COPTIC GANGIA"),
    (0x2cd7, "aCOPTIC SMALL LETTER OLD COPTIC GANGIAhCAPITAL LETTER OLD COPTIC DJAhSMALL LETTER OL"
      ++ "D COPTIC DJAhCAPITAL LETTER OLD COPTIC SHIMAhSMALL LETTER OLD COPTIC SHIMAhCAPITAL L"
      ++ "ETTER OLD NUBIAN SHIMAhSMALL LETTER OLD NUBIAN SHIMAhCAPITAL LETTER OLD NUBIAN NGIhS"
      ++ "MALL LETTER OLD NUBIAN NGIhCAPITAL LETTER OLD NUBIAN NYIhSMALL LETTER OLD NUBIAN NYI"
      ++ "hCAPITAL LETTER OLD NUBIAN WAUhSMALL LETTER OLD NUBIAN WAUiYMBOL KAIoMI ROoPI ROoSTA"
      ++ "UROSoTAU ROoKHI ROoSHIMA SIMAhCAPITAL LETTER CRYPTOGRAMMIC SHEIhSMALL LETTER CRYPTOG"
      ++ "RAMMIC SHEIhCAPITAL LETTER CRYPTOGRAMMIC GANGIAhSMALL LETTER CRYPTOGRAMMIC GANGIAhCO"
      ++ "MBINING NI ABOVErSPIRITUS ASPERαLENISiAPITAL LETTER BOHAIRIC KHEIhSMALL LETTER BOHAI"
      ++ "RIC KHEI"),
    (0x2cf9, "aCOPTIC OLD NUBIAN FULL STOPsDIRECT QUESTION MARKsINDIRECT QUESTION MARKsVERSE DIVID"
      ++ "ERhFRACTION ONE HALFiULL STOPhMORPHOLOGICAL DIVIDERaGEORGIAN SMALL LETTER ANwBANwGAN"
      ++ "wDONwENwVINwZENwTANwINwKANwLASwMANwNARwONwPARwZHARwRAEwSANwTARwUNwPHARwKHARwGHANwQAR"
      ++ "wSHINwCHINxANwJILwCILxHARwXANwJHANwHAExExIEwWEwHARxOE"),
    (0x2d27, "aGEORGIAN SMALL LETTER YN"),
    (0x2d2d, "aGEORGIAN SMALL LETTER AEN"),
    (0x2d30, "aTIFINAGH LETTER YAsBtHsGtHHqBERBER ACADEMY YAJqYAJsDtHtDuHrEYrAFsKqTUAREG YAKqYAKHH"
      ++ "sHqBERBER ACADEMY YAHqTUAREG YAHqYAHHsAsKHqTUAREG YAKHqYAQqTUAREG YAQqYIrAZHqAHAGGAR"
      ++ " YAZHqTUAREG YAZHqYALsMsNqTUAREG YAGNzNGqYAPrUrARtRsGHqTUAREG YAGHqAYER YAGHqYAStStH"
      ++ "sTtHsCHsTTsVsWsYsZqTAWELLEMET YAZqYAZZrErO"),
    (0x2d6f, "aTIFINAGH MODIFIER LETTER LABIALIZATION MARKjSEPARATOR MARK"),
    (0x2d7f, "aTIFINAGH CONSONANT JOINERaETHIOPIC SYLLABLE LOAsMOAsROAsSOAtHOAsBOAsTOAsCOAsNOAtYOA"
      ++ "sGLOTTAL OAsZOAsDOAtDOAsJOAsTHOAsCHOAsPHOAtOAsGGWAvIvEEw"),
    (0x2da0, "aETHIOPIC SYLLABLE SSAuUuIuAAuEEvuO"),
    (0x2da8, "aETHIOPIC SYLLABLE CCAuUuIuAAuEEvuO"),
    (0x2db0, "aETHIOPIC SYLLABLE ZZAuUuIuAAuEEvuO"),
    (0x2db8, "aETHIOPIC SYLLABLE CCHAvUvIvAAvEEwvO"),
    (0x2dc0, "aETHIOPIC SYLLABLE QYAuUuIuAAuEEvuO"),
    (0x2dc8, "aETHIOPIC SYLLABLE KYAuUuIuAAuEEvuO"),
    (0x2dd0, "aETHIOPIC SYLLABLE XYAuUuIuAAuEEvuO"),
    (0x2dd8, "aETHIOPIC SYLLABLE GYAuUuIuAAuEEvuO"),
    (0x2de0, "aCOMBINING CYRILLIC LETTER BEαVEαGHEαDEαZHEβEαKAαELβMβNαOαPEαERβSαTEαHAαTSEαCHEαSHAγ"
      ++ "CHAαFITAαES-TEαAαIEαDJERVαMONOGRAPH UKαYATβUαIOTIFIED AαLITTLE YUSαBIG YUSαIOTIFIED "
      ++ "BIG YUSaRIGHT ANGLE SUBSTITUTION MARKERmDOTTED SUBSTITUTION MARKERaLEFT SUBSTITUTION"
      ++ " BRACKETaRIGHT SUBSTITUTION BRACKETaLEFT DOTTED SUBSTITUTION BRACKETaRIGHT DOTTED SU"
      ++ "BSTITUTION BRACKETbAISED INTERPOLATION MARKERhDOTTED INTERPOLATION MARKERaDOTTED TRA"
      ++ "NSPOSITION MARKERaLEFT TRANSPOSITION BRACKETaRIGHT TRANSPOSITION BRACKETbAISED SQUAR"
      ++ "EaLEFT RAISED OMISSION BRACKETaRIGHT RAISED OMISSION BRACKETaEDITORIAL CORONISaPARAG"
      ++ "RAPHOSaFORKED PARAGRAPHOSaREVERSED FORKED PARAGRAPHOSaHYPODIASTOLEaDOTTED OBELOScWNW"
      ++ "ARDS ANCORAaUPWARDS ANCORAaDOTTED RIGHT-POINTING ANGLEcUBLE OBLIQUE HYPHENaINVERTED "
      ++ "INTERROBANGaPALM BRANCHaHYPHEN WITH DIAERESISaTILDE WITH RING ABOVEaLEFT LOW PARAPHR"
      ++ "ASE BRACKETaRIGHT LOW PARAPHRASE BRACKETaTILDE WITH DOT ABOVEpBELOW")
  ]

end ApiBridge.Text
