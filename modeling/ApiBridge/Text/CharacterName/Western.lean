/-!
# Names of characters: western

Letters and marks of the scripts of Europe and of Western Asia. A run starts at a code point; a
name starts with a mark for how much it shares with the one before.
-/

namespace ApiBridge.Text

/-- The names of these characters, in runs. -/
def westernNames : List (Nat × String) :=
  [
    (0x0020, "aSPACEaEXCLAMATION MARKaQUOTATION MARKaNUMBER SIGNaDOLLAR SIGNaPERCENT SIGNaAMPERSAN"
      ++ "DbPOSTROPHEaLEFT PARENTHESISaRIGHT PARENTHESISaASTERISKaPLUS SIGNaCOMMAaHYPHEN-MINUS"
      ++ "aFULL STOPaSOLIDUSaDIGIT ZEROgONEgTWOhHREEgFOURhIVEgSIXhEVENgEIGHTgNINEaCOLONaSEMICO"
      ++ "LONaLESS-THAN SIGNaEQUALS SIGNaGREATER-THAN SIGNaQUESTION MARKaCOMMERCIAL ATaLATIN C"
      ++ "APITAL LETTER AvBvCvDvEvFvGvHvIvJvKvLvMvNvOvPvQvRvSvTvUvVvWvXvYvZbEFT SQUARE BRACKET"
      ++ "aREVERSE SOLIDUSbIGHT SQUARE BRACKETaCIRCUMFLEX ACCENTaLOW LINE"),
    (0x0060, "aGRAVE ACCENTaLATIN SMALL LETTER AtBtCtDtEtFtGtHtItJtKtLtMtNtOtPtQtRtStTtUtVtWtXtYtZ"
      ++ "bEFT CURLY BRACKETaVERTICAL LINEaRIGHT CURLY BRACKETaTILDE"),
    (0x00a0, "aNO-BREAK SPACEaINVERTED EXCLAMATION MARKaCENT SIGNaPOUND SIGNaCURRENCY SIGNaYEN SIG"
      ++ "NaBROKEN BARaSECTION SIGNaDIAERESISaCOPYRIGHT SIGNaFEMININE ORDINAL INDICATORaLEFT-P"
      ++ "OINTING DOUBLE ANGLE QUOTATION MARKaNOT SIGNaSOFT HYPHENaREGISTERED SIGNaMACRONaDEGR"
      ++ "EE SIGNaPLUS-MINUS SIGNaSUPERSCRIPT TWOnHREEaACUTE ACCENTaMICRO SIGNaPILCROW SIGNaMI"
      ++ "DDLE DOTaCEDILLAaSUPERSCRIPT ONEaMASCULINE ORDINAL INDICATORaRIGHT-POINTING DOUBLE A"
      ++ "NGLE QUOTATION MARKaVULGAR FRACTION ONE QUARTERuHALFqTHREE QUARTERSaINVERTED QUESTIO"
      ++ "N MARKaLATIN CAPITAL LETTER A WITH GRAVEγACUTEγCIRCUMFLEXγTILDEγDIAERESISγRING ABOVE"
      ++ "wEvC WITH CEDILLAvE WITH GRAVEγACUTEγCIRCUMFLEXγDIAERESISvI WITH GRAVEγACUTEγCIRCUMF"
      ++ "LEXγDIAERESISvETHvN WITH TILDEvO WITH GRAVEγACUTEγCIRCUMFLEXγTILDEγDIAERESISaMULTIPL"
      ++ "ICATION SIGNaLATIN CAPITAL LETTER O WITH STROKEvU WITH GRAVEγACUTEγCIRCUMFLEXγDIAERE"
      ++ "SISvY WITH ACUTEvTHORNgSMALL LETTER SHARP S"),
    (0x00e0, "aLATIN SMALL LETTER A WITH GRAVEαACUTEαCIRCUMFLEXαTILDEαDIAERESISαRING ABOVEuEtC WIT"
      ++ "H CEDILLAtE WITH GRAVEαACUTEαCIRCUMFLEXαDIAERESIStI WITH GRAVEαACUTEαCIRCUMFLEXαDIAE"
      ++ "RESIStETHtN WITH TILDEtO WITH GRAVEαACUTEαCIRCUMFLEXαTILDEαDIAERESISaDIVISION SIGNaL"
      ++ "ATIN SMALL LETTER O WITH STROKEtU WITH GRAVEαACUTEαCIRCUMFLEXαDIAERESIStY WITH ACUTE"
      ++ "tTHORNtY WITH DIAERESISgCAPITAL LETTER A WITH MACRONgSMALL LETTER A WITH MACRONgCAPI"
      ++ "TAL LETTER A WITH BREVEgSMALL LETTER A WITH BREVEgCAPITAL LETTER A WITH OGONEKgSMALL"
      ++ " LETTER A WITH OGONEKgCAPITAL LETTER C WITH ACUTEgSMALL LETTER C WITH ACUTEgCAPITAL "
      ++ "LETTER C WITH CIRCUMFLEXgSMALL LETTER C WITH CIRCUMFLEXgCAPITAL LETTER C WITH DOT AB"
      ++ "OVEgSMALL LETTER C WITH DOT ABOVEgCAPITAL LETTER C WITH CARONgSMALL LETTER C WITH CA"
      ++ "RONgCAPITAL LETTER D WITH CARONgSMALL LETTER D WITH CARONgCAPITAL LETTER D WITH STRO"
      ++ "KEgSMALL LETTER D WITH STROKEgCAPITAL LETTER E WITH MACRONgSMALL LETTER E WITH MACRO"
      ++ "NgCAPITAL LETTER E WITH BREVEgSMALL LETTER E WITH BREVEgCAPITAL LETTER E WITH DOT AB"
      ++ "OVEgSMALL LETTER E WITH DOT ABOVEgCAPITAL LETTER E WITH OGONEKgSMALL LETTER E WITH O"
      ++ "GONEKgCAPITAL LETTER E WITH CARONgSMALL LETTER E WITH CARONgCAPITAL LETTER G WITH CI"
      ++ "RCUMFLEXgSMALL LETTER G WITH CIRCUMFLEXgCAPITAL LETTER G WITH BREVEgSMALL LETTER G W"
      ++ "ITH BREVE"),
    (0x0120, "aLATIN CAPITAL LETTER G WITH DOT ABOVEgSMALL LETTER G WITH DOT ABOVEgCAPITAL LETTER "
      ++ "G WITH CEDILLAgSMALL LETTER G WITH CEDILLAgCAPITAL LETTER H WITH CIRCUMFLEXgSMALL LE"
      ++ "TTER H WITH CIRCUMFLEXgCAPITAL LETTER H WITH STROKEgSMALL LETTER H WITH STROKEgCAPIT"
      ++ "AL LETTER I WITH TILDEgSMALL LETTER I WITH TILDEgCAPITAL LETTER I WITH MACRONgSMALL "
      ++ "LETTER I WITH MACRONgCAPITAL LETTER I WITH BREVEgSMALL LETTER I WITH BREVEgCAPITAL L"
      ++ "ETTER I WITH OGONEKgSMALL LETTER I WITH OGONEKgCAPITAL LETTER I WITH DOT ABOVEgSMALL"
      ++ " LETTER DOTLESS IgCAPITAL LIGATURE IJgSMALL LIGATURE IJgCAPITAL LETTER J WITH CIRCUM"
      ++ "FLEXgSMALL LETTER J WITH CIRCUMFLEXgCAPITAL LETTER K WITH CEDILLAgSMALL LETTER K WIT"
      ++ "H CEDILLAuRAgCAPITAL LETTER L WITH ACUTEgSMALL LETTER L WITH ACUTEgCAPITAL LETTER L "
      ++ "WITH CEDILLAgSMALL LETTER L WITH CEDILLAgCAPITAL LETTER L WITH CARONgSMALL LETTER L "
      ++ "WITH CARONgCAPITAL LETTER L WITH MIDDLE DOTgSMALL LETTER L WITH MIDDLE DOTgCAPITAL L"
      ++ "ETTER L WITH STROKEgSMALL LETTER L WITH STROKEgCAPITAL LETTER N WITH ACUTEgSMALL LET"
      ++ "TER N WITH ACUTEgCAPITAL LETTER N WITH CEDILLAgSMALL LETTER N WITH CEDILLAgCAPITAL L"
      ++ "ETTER N WITH CARONgSMALL LETTER N WITH CARONvPRECEDED BY APOSTROPHEgCAPITAL LETTER E"
      ++ "NGgSMALL LETTER ENGgCAPITAL LETTER O WITH MACRONgSMALL LETTER O WITH MACRONgCAPITAL "
      ++ "LETTER O WITH BREVEgSMALL LETTER O WITH BREVEgCAPITAL LETTER O WITH DOUBLE ACUTEgSMA"
      ++ "LL LETTER O WITH DOUBLE ACUTEgCAPITAL LIGATURE OEgSMALL LIGATURE OEgCAPITAL LETTER R"
      ++ " WITH ACUTEgSMALL LETTER R WITH ACUTEgCAPITAL LETTER R WITH CEDILLAgSMALL LETTER R W"
      ++ "ITH CEDILLAgCAPITAL LETTER R WITH CARONgSMALL LETTER R WITH CARONgCAPITAL LETTER S W"
      ++ "ITH ACUTEgSMALL LETTER S WITH ACUTEgCAPITAL LETTER S WITH CIRCUMFLEXgSMALL LETTER S "
      ++ "WITH CIRCUMFLEXgCAPITAL LETTER S WITH CEDILLAgSMALL LETTER S WITH CEDILLA"),
    (0x0160, "aLATIN CAPITAL LETTER S WITH CARONgSMALL LETTER S WITH CARONgCAPITAL LETTER T WITH C"
      ++ "EDILLAgSMALL LETTER T WITH CEDILLAgCAPITAL LETTER T WITH CARONgSMALL LETTER T WITH C"
      ++ "ARONgCAPITAL LETTER T WITH STROKEgSMALL LETTER T WITH STROKEgCAPITAL LETTER U WITH T"
      ++ "ILDEgSMALL LETTER U WITH TILDEgCAPITAL LETTER U WITH MACRONgSMALL LETTER U WITH MACR"
      ++ "ONgCAPITAL LETTER U WITH BREVEgSMALL LETTER U WITH BREVEgCAPITAL LETTER U WITH RING "
      ++ "ABOVEgSMALL LETTER U WITH RING ABOVEgCAPITAL LETTER U WITH DOUBLE ACUTEgSMALL LETTER"
      ++ " U WITH DOUBLE ACUTEgCAPITAL LETTER U WITH OGONEKgSMALL LETTER U WITH OGONEKgCAPITAL"
      ++ " LETTER W WITH CIRCUMFLEXgSMALL LETTER W WITH CIRCUMFLEXgCAPITAL LETTER Y WITH CIRCU"
      ++ "MFLEXgSMALL LETTER Y WITH CIRCUMFLEXgCAPITAL LETTER Y WITH DIAERESISvZ WITH ACUTEgSM"
      ++ "ALL LETTER Z WITH ACUTEgCAPITAL LETTER Z WITH DOT ABOVEgSMALL LETTER Z WITH DOT ABOV"
      ++ "EgCAPITAL LETTER Z WITH CARONgSMALL LETTER Z WITH CARONtLONG StB WITH STROKEgCAPITAL"
      ++ " LETTER B WITH HOOKγTOPBARgSMALL LETTER B WITH TOPBARgCAPITAL LETTER TONE SIXgSMALL "
      ++ "LETTER TONE SIXgCAPITAL LETTER OPEN OvC WITH HOOKgSMALL LETTER C WITH HOOKgCAPITAL L"
      ++ "ETTER AFRICAN DvD WITH HOOKγTOPBARgSMALL LETTER D WITH TOPBARtTURNED DELTAgCAPITAL L"
      ++ "ETTER REVERSED EvSCHWAvOPEN EvF WITH HOOKgSMALL LETTER F WITH HOOKgCAPITAL LETTER G "
      ++ "WITH HOOKwAMMAgSMALL LETTER HVgCAPITAL LETTER IOTAw WITH STROKEvK WITH HOOKgSMALL LE"
      ++ "TTER K WITH HOOKtL WITH BARuAMBDA WITH STROKEgCAPITAL LETTER TURNED MvN WITH LEFT HO"
      ++ "OKgSMALL LETTER N WITH LONG RIGHT LEGgCAPITAL LETTER O WITH MIDDLE TILDE"),
    (0x01a0, "aLATIN CAPITAL LETTER O WITH HORNgSMALL LETTER O WITH HORNgCAPITAL LETTER OIgSMALL L"
      ++ "ETTER OIgCAPITAL LETTER P WITH HOOKgSMALL LETTER P WITH HOOKgLETTER YRgCAPITAL LETTE"
      ++ "R TONE TWOgSMALL LETTER TONE TWOgCAPITAL LETTER ESHgLETTER REVERSED ESH LOOPgSMALL L"
      ++ "ETTER T WITH PALATAL HOOKgCAPITAL LETTER T WITH HOOKgSMALL LETTER T WITH HOOKgCAPITA"
      ++ "L LETTER T WITH RETROFLEX HOOKvU WITH HORNgSMALL LETTER U WITH HORNgCAPITAL LETTER U"
      ++ "PSILONvV WITH HOOKvY WITH HOOKgSMALL LETTER Y WITH HOOKgCAPITAL LETTER Z WITH STROKE"
      ++ "gSMALL LETTER Z WITH STROKEgCAPITAL LETTER EZHy REVERSEDgSMALL LETTER EZH REVERSEDxW"
      ++ "ITH TAILgLETTER TWO WITH STROKEgCAPITAL LETTER TONE FIVEgSMALL LETTER TONE FIVEgLETT"
      ++ "ER INVERTED GLOTTAL STOP WITH STROKEnWYNNnDENTAL CLICKnLATERAL CLICKnALVEOLAR CLICKn"
      ++ "RETROFLEX CLICKgCAPITAL LETTER DZ WITH CARONw WITH SMALL LETTER Z WITH CARONgSMALL L"
      ++ "ETTER DZ WITH CARONgCAPITAL LETTER LJw WITH SMALL LETTER JgSMALL LETTER LJgCAPITAL L"
      ++ "ETTER NJw WITH SMALL LETTER JgSMALL LETTER NJgCAPITAL LETTER A WITH CARONgSMALL LETT"
      ++ "ER A WITH CARONgCAPITAL LETTER I WITH CARONgSMALL LETTER I WITH CARONgCAPITAL LETTER"
      ++ " O WITH CARONgSMALL LETTER O WITH CARONgCAPITAL LETTER U WITH CARONgSMALL LETTER U W"
      ++ "ITH CARONgCAPITAL LETTER U WITH DIAERESIS AND MACRONgSMALL LETTER U WITH DIAERESIS A"
      ++ "ND MACRONgCAPITAL LETTER U WITH DIAERESIS AND ACUTEgSMALL LETTER U WITH DIAERESIS AN"
      ++ "D ACUTEgCAPITAL LETTER U WITH DIAERESIS AND CARONgSMALL LETTER U WITH DIAERESIS AND "
      ++ "CARONgCAPITAL LETTER U WITH DIAERESIS AND GRAVEgSMALL LETTER U WITH DIAERESIS AND GR"
      ++ "AVEtTURNED EgCAPITAL LETTER A WITH DIAERESIS AND MACRONgSMALL LETTER A WITH DIAERESI"
      ++ "S AND MACRON"),
    (0x01e0, "aLATIN CAPITAL LETTER A WITH DOT ABOVE AND MACRONgSMALL LETTER A WITH DOT ABOVE AND "
      ++ "MACRONgCAPITAL LETTER AE WITH MACRONgSMALL LETTER AE WITH MACRONgCAPITAL LETTER G WI"
      ++ "TH STROKEgSMALL LETTER G WITH STROKEgCAPITAL LETTER G WITH CARONgSMALL LETTER G WITH"
      ++ " CARONgCAPITAL LETTER K WITH CARONgSMALL LETTER K WITH CARONgCAPITAL LETTER O WITH O"
      ++ "GONEKgSMALL LETTER O WITH OGONEKgCAPITAL LETTER O WITH OGONEK AND MACRONgSMALL LETTE"
      ++ "R O WITH OGONEK AND MACRONgCAPITAL LETTER EZH WITH CARONgSMALL LETTER EZH WITH CARON"
      ++ "tJ WITH CARONgCAPITAL LETTER DZw WITH SMALL LETTER ZgSMALL LETTER DZgCAPITAL LETTER "
      ++ "G WITH ACUTEgSMALL LETTER G WITH ACUTEgCAPITAL LETTER HWAIRvWYNNvN WITH GRAVEgSMALL "
      ++ "LETTER N WITH GRAVEgCAPITAL LETTER A WITH RING ABOVE AND ACUTEgSMALL LETTER A WITH R"
      ++ "ING ABOVE AND ACUTEgCAPITAL LETTER AE WITH ACUTEgSMALL LETTER AE WITH ACUTEgCAPITAL "
      ++ "LETTER O WITH STROKE AND ACUTEgSMALL LETTER O WITH STROKE AND ACUTEgCAPITAL LETTER A"
      ++ " WITH DOUBLE GRAVEgSMALL LETTER A WITH DOUBLE GRAVEgCAPITAL LETTER A WITH INVERTED B"
      ++ "REVEgSMALL LETTER A WITH INVERTED BREVEgCAPITAL LETTER E WITH DOUBLE GRAVEgSMALL LET"
      ++ "TER E WITH DOUBLE GRAVEgCAPITAL LETTER E WITH INVERTED BREVEgSMALL LETTER E WITH INV"
      ++ "ERTED BREVEgCAPITAL LETTER I WITH DOUBLE GRAVEgSMALL LETTER I WITH DOUBLE GRAVEgCAPI"
      ++ "TAL LETTER I WITH INVERTED BREVEgSMALL LETTER I WITH INVERTED BREVEgCAPITAL LETTER O"
      ++ " WITH DOUBLE GRAVEgSMALL LETTER O WITH DOUBLE GRAVEgCAPITAL LETTER O WITH INVERTED B"
      ++ "REVEgSMALL LETTER O WITH INVERTED BREVEgCAPITAL LETTER R WITH DOUBLE GRAVEgSMALL LET"
      ++ "TER R WITH DOUBLE GRAVEgCAPITAL LETTER R WITH INVERTED BREVEgSMALL LETTER R WITH INV"
      ++ "ERTED BREVEgCAPITAL LETTER U WITH DOUBLE GRAVEgSMALL LETTER U WITH DOUBLE GRAVEgCAPI"
      ++ "TAL LETTER U WITH INVERTED BREVEgSMALL LETTER U WITH INVERTED BREVEgCAPITAL LETTER S"
      ++ " WITH COMMA BELOWgSMALL LETTER S WITH COMMA BELOWgCAPITAL LETTER T WITH COMMA BELOWg"
      ++ "SMALL LETTER T WITH COMMA BELOWgCAPITAL LETTER YOGHgSMALL LETTER YOGHgCAPITAL LETTER"
      ++ " H WITH CARONgSMALL LETTER H WITH CARON"),
    (0x0220, "aLATIN CAPITAL LETTER N WITH LONG RIGHT LEGgSMALL LETTER D WITH CURLgCAPITAL LETTER "
      ++ "OUgSMALL LETTER OUgCAPITAL LETTER Z WITH HOOKgSMALL LETTER Z WITH HOOKgCAPITAL LETTE"
      ++ "R A WITH DOT ABOVEgSMALL LETTER A WITH DOT ABOVEgCAPITAL LETTER E WITH CEDILLAgSMALL"
      ++ " LETTER E WITH CEDILLAgCAPITAL LETTER O WITH DIAERESIS AND MACRONgSMALL LETTER O WIT"
      ++ "H DIAERESIS AND MACRONgCAPITAL LETTER O WITH TILDE AND MACRONgSMALL LETTER O WITH TI"
      ++ "LDE AND MACRONgCAPITAL LETTER O WITH DOT ABOVEgSMALL LETTER O WITH DOT ABOVEgCAPITAL"
      ++ " LETTER O WITH DOT ABOVE AND MACRONgSMALL LETTER O WITH DOT ABOVE AND MACRONgCAPITAL"
      ++ " LETTER Y WITH MACRONgSMALL LETTER Y WITH MACRONtL WITH CURLtN WITH CURLtT WITH CURL"
      ++ "tDOTLESS JuB DIGRAPHtQP DIGRAPHgCAPITAL LETTER A WITH STROKEvC WITH STROKEgSMALL LET"
      ++ "TER C WITH STROKEgCAPITAL LETTER L WITH BARvT WITH DIAGONAL STROKEgSMALL LETTER S WI"
      ++ "TH SWASH TAILtZ WITH SWASH TAILgCAPITAL LETTER GLOTTAL STOPgSMALL LETTER GLOTTAL STO"
      ++ "PgCAPITAL LETTER B WITH STROKEvU BARvTURNED VvE WITH STROKEgSMALL LETTER E WITH STRO"
      ++ "KEgCAPITAL LETTER J WITH STROKEgSMALL LETTER J WITH STROKEgCAPITAL LETTER SMALL Q WI"
      ++ "TH HOOK TAILgSMALL LETTER Q WITH HOOK TAILgCAPITAL LETTER R WITH STROKEgSMALL LETTER"
      ++ " R WITH STROKEgCAPITAL LETTER Y WITH STROKEgSMALL LETTER Y WITH STROKEtTURNED AtALPH"
      ++ "AtTURNED ALPHAtB WITH HOOKtOPEN OtC WITH CURLtD WITH TAILαHOOKtREVERSED EtSCHWAy WIT"
      ++ "H HOOKtOPEN EtREVERSED OPEN Eι WITH HOOKtCLOSED REVERSED OPEN EtDOTLESS J WITH STROK"
      ++ "E"),
    (0x0260, "aLATIN SMALL LETTER G WITH HOOKtSCRIPT GgLETTER SMALL CAPITAL GgSMALL LETTER GAMMAtR"
      ++ "AMS HORNtTURNED HtH WITH HOOKuENG WITH HOOKtI WITH STROKEuOTAgLETTER SMALL CAPITAL I"
      ++ "gSMALL LETTER L WITH MIDDLE TILDEαBELTαRETROFLEX HOOKuEZHtTURNED Mβ WITH LONG LEGtM "
      ++ "WITH HOOKtN WITH LEFT HOOKαRETROFLEX HOOKgLETTER SMALL CAPITAL NgSMALL LETTER BARRED"
      ++ " OgLETTER SMALL CAPITAL OEgSMALL LETTER CLOSED OMEGAtPHItTURNED Rβ WITH LONG LEGθHOO"
      ++ "KtR WITH LONG LEGαTAILαFISHHOOKuEVERSED R WITH FISHHOOKgLETTER SMALL CAPITAL RβINVER"
      ++ "TED RgSMALL LETTER S WITH HOOKtESHtDOTLESS J WITH STROKE AND HOOKtSQUAT REVERSED ESH"
      ++ "tESH WITH CURLtTURNED Tu WITH RETROFLEX HOOKtU BARuPSILONtV WITH HOOKtTURNED VαWαYgL"
      ++ "ETTER SMALL CAPITAL YgSMALL LETTER Z WITH RETROFLEX HOOKαCURLtEZHw WITH CURLgLETTER "
      ++ "GLOTTAL STOPnPHARYNGEAL VOICED FRICATIVEnINVERTED GLOTTAL STOPnSTRETCHED CnBILABIAL "
      ++ "CLICKnSMALL CAPITAL BgSMALL LETTER CLOSED OPEN EgLETTER SMALL CAPITAL G WITH HOOKβHg"
      ++ "SMALL LETTER J WITH CROSSED-TAILtTURNED KgLETTER SMALL CAPITAL L"),
    (0x02a0, "aLATIN SMALL LETTER Q WITH HOOKgLETTER GLOTTAL STOP WITH STROKEnREVERSED GLOTTAL STO"
      ++ "P WITH STROKEgSMALL LETTER DZ DIGRAPHuEZH DIGRAPHuZ DIGRAPH WITH CURLtTS DIGRAPHuESH"
      ++ " DIGRAPHuC DIGRAPH WITH CURLtFENG DIGRAPHtLS DIGRAPHuZ DIGRAPHgLETTER BILABIAL PERCU"
      ++ "SSIVEpDENTAL PERCUSSIVEgSMALL LETTER TURNED H WITH FISHHOOKπ AND TAILaMODIFIER LETTE"
      ++ "R SMALL Hx WITH HOOKwJwRwTURNED Rε WITH HOOKwCAPITAL INVERTED RwWwYqPRIMEqDOUBLE PRI"
      ++ "MEqTURNED COMMAqAPOSTROPHEqREVERSED COMMArIGHT HALF RINGqLEFT HALF RINGqGLOTTAL STOP"
      ++ "qREVERSED GLOTTAL STOPqLEFT ARROWHEADqRIGHT ARROWHEADqUP ARROWHEADqDOWN ARROWHEADqCI"
      ++ "RCUMFLEX ACCENTaCARONaMODIFIER LETTER VERTICAL LINEqMACRONqACUTE ACCENTqGRAVE ACCENT"
      ++ "qLOW VERTICAL LINEuMACRONuGRAVE ACCENTuACUTE ACCENTqTRIANGULAR COLONqHALF TRIANGULAR"
      ++ " COLONqCENTRED RIGHT HALF RINGyLEFT HALF RINGqUP TACKqDOWN TACKqPLUS SIGNqMINUS SIGN"
      ++ "aBREVEaDOT ABOVEaRING ABOVEaOGONEKaSMALL TILDEaDOUBLE ACUTE ACCENTaMODIFIER LETTER R"
      ++ "HOTIC HOOKqCROSS ACCENT"),
    (0x02e0, "aMODIFIER LETTER SMALL GAMMAwLwSwXwREVERSED GLOTTAL STOPqEXTRA-HIGH TONE BARqHIGH TO"
      ++ "NE BARqMID TONE BARqLOW TONE BARqEXTRA-LOW TONE BARqYIN DEPARTING TONE MARKrANG DEPA"
      ++ "RTING TONE MARKqVOICINGqUNASPIRATEDqDOUBLE APOSTROPHEqLOW DOWN ARROWHEADuUP ARROWHEA"
      ++ "DuLEFT ARROWHEADuRIGHT ARROWHEADwNGqMIDDLE GRAVE ACCENTxDOUBLE GRAVE ACCENTεACUTE AC"
      ++ "CENTqLOW TILDEqRAISED COLONqBEGIN HIGH TONEqEND HIGH TONEqBEGIN LOW TONEqEND LOW TON"
      ++ "EqSHELFqOPEN SHELFqLOW LEFT ARROWaCOMBINING GRAVE ACCENTkACUTE ACCENTkCIRCUMFLEX ACC"
      ++ "ENTkTILDEkMACRONkOVERLINEkBREVEkDOT ABOVElIAERESISkHOOK ABOVEkRING ABOVEkDOUBLE ACUT"
      ++ "E ACCENTkCARONkVERTICAL LINE ABOVEkDOUBLE VERTICAL LINE ABOVErGRAVE ACCENTkCANDRABIN"
      ++ "DUkINVERTED BREVEkTURNED COMMA ABOVEkCOMMA ABOVEkREVERSED COMMA ABOVEkCOMMA ABOVE RI"
      ++ "GHTkGRAVE ACCENT BELOWkACUTE ACCENT BELOWkLEFT TACK BELOWkRIGHT TACK BELOWkLEFT ANGL"
      ++ "E ABOVEkHORNkLEFT HALF RING BELOWkUP TACK BELOWkDOWN TACK BELOWkPLUS SIGN BELOW"),
    (0x0320, "aCOMBINING MINUS SIGN BELOWkPALATALIZED HOOK BELOWkRETROFLEX HOOK BELOWkDOT BELOWlIA"
      ++ "ERESIS BELOWkRING BELOWkCOMMA BELOWlEDILLAkOGONEKkVERTICAL LINE BELOWkBRIDGE BELOWkI"
      ++ "NVERTED DOUBLE ARCH BELOWkCARON BELOWlIRCUMFLEX ACCENT BELOWkBREVE BELOWkINVERTED BR"
      ++ "EVE BELOWkTILDE BELOWkMACRON BELOWkLOW LINEkDOUBLE LOW LINEkTILDE OVERLAYkSHORT STRO"
      ++ "KE OVERLAYkLONG STROKE OVERLAYkSHORT SOLIDUS OVERLAYkLONG SOLIDUS OVERLAYkRIGHT HALF"
      ++ " RING BELOWkINVERTED BRIDGE BELOWkSQUARE BELOWlEAGULL BELOWkX ABOVEkVERTICAL TILDEkD"
      ++ "OUBLE OVERLINEkGRAVE TONE MARKkACUTE TONE MARKkGREEK PERISPOMENIqKORONISqDIALYTIKA T"
      ++ "ONOSqYPOGEGRAMMENIkBRIDGE ABOVEkEQUALS SIGN BELOWkDOUBLE VERTICAL LINE BELOWkLEFT AN"
      ++ "GLE BELOWkNOT TILDE ABOVEkHOMOTHETIC ABOVEkALMOST EQUAL TO ABOVEkLEFT RIGHT ARROW BE"
      ++ "LOWkUPWARDS ARROW BELOWkGRAPHEME JOINERkRIGHT ARROWHEAD ABOVEkLEFT HALF RING ABOVEkF"
      ++ "ERMATAkX BELOWkLEFT ARROWHEAD BELOWkRIGHT ARROWHEAD BELOWαAND UP ARROWHEAD BELOWqHAL"
      ++ "F RING ABOVEkDOT ABOVE RIGHTkASTERISK BELOWkDOUBLE RING BELOWkZIGZAG ABOVEkDOUBLE BR"
      ++ "EVE BELOWwrMACRONx BELOW"),
    (0x0360, "aCOMBINING DOUBLE TILDErINVERTED BREVErRIGHTWARDS ARROW BELOWkLATIN SMALL LETTER AδE"
      ++ "δIδOδUδCδDδHδMδRδTδVδXaGREEK CAPITAL LETTER HETAgSMALL LETTER HETAgCAPITAL LETTER AR"
      ++ "CHAIC SAMPIgSMALL LETTER ARCHAIC SAMPIgNUMERAL SIGNgLOWER NUMERAL SIGNgCAPITAL LETTE"
      ++ "R PAMPHYLIAN DIGAMMAgSMALL LETTER PAMPHYLIAN DIGAMMA"),
    (0x037a, "aGREEK YPOGEGRAMMENIgSMALL REVERSED LUNATE SIGMA SYMBOLmDOTTED LUNATE SIGMA SYMBOLmR"
      ++ "EVERSED DOTTED LUNATE SIGMA SYMBOLgQUESTION MARKgCAPITAL LETTER YOT"),
    (0x0384, "aGREEK TONOSgDIALYTIKA TONOSgCAPITAL LETTER ALPHA WITH TONOSgANO TELEIAgCAPITAL LETT"
      ++ "ER EPSILON WITH TONOSwTA WITH TONOSvIOTA WITH TONOS"),
    (0x038c, "aGREEK CAPITAL LETTER OMICRON WITH TONOS"),
    (0x038e, "aGREEK CAPITAL LETTER UPSILON WITH TONOSvOMEGA WITH TONOSgSMALL LETTER IOTA WITH DIA"
      ++ "LYTIKA AND TONOSgCAPITAL LETTER ALPHAvBETAvGAMMAvDELTAvEPSILONvZETAvETAvTHETAvIOTAvK"
      ++ "APPAvLAMDAvMUvNUvXIvOMICRONvPIvRHO"),
    (0x03a3, "aGREEK CAPITAL LETTER SIGMAvTAUvUPSILONvPHIvCHIvPSIvOMEGAvIOTA WITH DIALYTIKAvUPSILO"
      ++ "N WITH DIALYTIKAgSMALL LETTER ALPHA WITH TONOStEPSILON WITH TONOSuTA WITH TONOStIOTA"
      ++ " WITH TONOStUPSILON WITH DIALYTIKA AND TONOStALPHAtBETAtGAMMAtDELTAtEPSILONtZETAtETA"
      ++ "tTHETAtIOTAtKAPPAtLAMDAtMUtNUtXItOMICRONtPItRHOtFINAL SIGMAtSIGMAtTAUtUPSILONtPHItCH"
      ++ "ItPSItOMEGAtIOTA WITH DIALYTIKAtUPSILON WITH DIALYTIKAtOMICRON WITH TONOStUPSILON WI"
      ++ "TH TONOStOMEGA WITH TONOSgCAPITAL KAI SYMBOLgBETA SYMBOLgTHETA SYMBOLgUPSILON WITH H"
      ++ "OOK SYMBOLtACUTE AND HOOK SYMBOLtDIAERESIS AND HOOK SYMBOLgPHI SYMBOLhI SYMBOLgKAI S"
      ++ "YMBOLgLETTER ARCHAIC KOPPAgSMALL LETTER ARCHAIC KOPPAgLETTER STIGMAgSMALL LETTER STI"
      ++ "GMAgLETTER DIGAMMAgSMALL LETTER DIGAMMAgLETTER KOPPAgSMALL LETTER KOPPAgLETTER SAMPI"
      ++ "gSMALL LETTER SAMPIaCOPTIC CAPITAL LETTER SHEI"),
    (0x03e3, "aCOPTIC SMALL LETTER SHEIhCAPITAL LETTER FEIhSMALL LETTER FEIhCAPITAL LETTER KHEIhSM"
      ++ "ALL LETTER KHEIhCAPITAL LETTER HORIhSMALL LETTER HORIhCAPITAL LETTER GANGIAhSMALL LE"
      ++ "TTER GANGIAhCAPITAL LETTER SHIMAhSMALL LETTER SHIMAhCAPITAL LETTER DEIhSMALL LETTER "
      ++ "DEIaGREEK KAPPA SYMBOLgRHO SYMBOLgLUNATE SIGMA SYMBOLhETTER YOTgCAPITAL THETA SYMBOL"
      ++ "gLUNATE EPSILON SYMBOLgREVERSED LUNATE EPSILON SYMBOLgCAPITAL LETTER SHOgSMALL LETTE"
      ++ "R SHOgCAPITAL LUNATE SIGMA SYMBOLpETTER SANgSMALL LETTER SANgRHO WITH STROKE SYMBOLg"
      ++ "CAPITAL REVERSED LUNATE SIGMA SYMBOLoDOTTED LUNATE SIGMA SYMBOLoREVERSED DOTTED LUNA"
      ++ "TE SIGMA SYMBOLaCYRILLIC CAPITAL LETTER IE WITH GRAVEzOyDJEyGJEyUKRAINIAN IEyDZEyBYE"
      ++ "LORUSSIAN-UKRAINIAN IyYIyJEyLJEyNJEyTSHEyKJEyI WITH GRAVEySHORT UyDZHEyAyBEyVEyGHEyD"
      ++ "EyIEyZHEzEyIySHORT IyKAyELzMzNyOyPEyERzSyTE"),
    (0x0423, "aCYRILLIC CAPITAL LETTER UyEFyHAyTSEyCHEySHAαCHAyHARD SIGNyYERUySOFT SIGNyEyYUzAjSMA"
      ++ "LL LETTER AwBEwVEwGHEwDEwIEwZHExEwIwSHORT IwKAwELxMxNwOwPEwERxSwTEwUwEFwHAwTSEwCHEwS"
      ++ "HAyCHAwHARD SIGNwYERUwSOFT SIGNwEwYUxAwIE WITH GRAVExOwDJEwGJEwUKRAINIAN IEwDZEwBYEL"
      ++ "ORUSSIAN-UKRAINIAN IwYIwJEwLJEwNJEwTSHEwKJEwI WITH GRAVEwSHORT UwDZHEjCAPITAL LETTER"
      ++ " OMEGAjSMALL LETTER OMEGAjCAPITAL LETTER YAT"),
    (0x0463, "aCYRILLIC SMALL LETTER YATjCAPITAL LETTER IOTIFIED EjSMALL LETTER IOTIFIED EjCAPITAL"
      ++ " LETTER LITTLE YUSjSMALL LETTER LITTLE YUSjCAPITAL LETTER IOTIFIED LITTLE YUSjSMALL "
      ++ "LETTER IOTIFIED LITTLE YUSjCAPITAL LETTER BIG YUSjSMALL LETTER BIG YUSjCAPITAL LETTE"
      ++ "R IOTIFIED BIG YUSjSMALL LETTER IOTIFIED BIG YUSjCAPITAL LETTER KSIjSMALL LETTER KSI"
      ++ "jCAPITAL LETTER PSIjSMALL LETTER PSIjCAPITAL LETTER FITAjSMALL LETTER FITAjCAPITAL L"
      ++ "ETTER IZHITSAjSMALL LETTER IZHITSAjCAPITAL LETTER IZHITSA WITH DOUBLE GRAVE ACCENTjS"
      ++ "MALL LETTER IZHITSA WITH DOUBLE GRAVE ACCENTjCAPITAL LETTER UKjSMALL LETTER UKjCAPIT"
      ++ "AL LETTER ROUND OMEGAjSMALL LETTER ROUND OMEGAjCAPITAL LETTER OMEGA WITH TITLOjSMALL"
      ++ " LETTER OMEGA WITH TITLOjCAPITAL LETTER OTjSMALL LETTER OTjCAPITAL LETTER KOPPAjSMAL"
      ++ "L LETTER KOPPAjTHOUSANDS SIGNbOMBINING CYRILLIC TITLOtPALATALIZATIONtDASIA PNEUMATAt"
      ++ "PSILI PNEUMATAuOKRYTIEtHUNDRED THOUSANDS SIGNtMILLIONS SIGNbYRILLIC CAPITAL LETTER S"
      ++ "HORT I WITH TAILjSMALL LETTER SHORT I WITH TAILjCAPITAL LETTER SEMISOFT SIGNjSMALL L"
      ++ "ETTER SEMISOFT SIGNjCAPITAL LETTER ER WITH TICKjSMALL LETTER ER WITH TICKjCAPITAL LE"
      ++ "TTER GHE WITH UPTURNjSMALL LETTER GHE WITH UPTURNjCAPITAL LETTER GHE WITH STROKEjSMA"
      ++ "LL LETTER GHE WITH STROKEjCAPITAL LETTER GHE WITH MIDDLE HOOKjSMALL LETTER GHE WITH "
      ++ "MIDDLE HOOKjCAPITAL LETTER ZHE WITH DESCENDERjSMALL LETTER ZHE WITH DESCENDERjCAPITA"
      ++ "L LETTER ZE WITH DESCENDERjSMALL LETTER ZE WITH DESCENDERjCAPITAL LETTER KA WITH DES"
      ++ "CENDERjSMALL LETTER KA WITH DESCENDERjCAPITAL LETTER KA WITH VERTICAL STROKEjSMALL L"
      ++ "ETTER KA WITH VERTICAL STROKEjCAPITAL LETTER KA WITH STROKEjSMALL LETTER KA WITH STR"
      ++ "OKEjCAPITAL LETTER BASHKIR KAjSMALL LETTER BASHKIR KAjCAPITAL LETTER EN WITH DESCEND"
      ++ "ER"),
    (0x04a3, "aCYRILLIC SMALL LETTER EN WITH DESCENDERjCAPITAL LIGATURE EN GHEjSMALL LIGATURE EN G"
      ++ "HEjCAPITAL LETTER PE WITH MIDDLE HOOKjSMALL LETTER PE WITH MIDDLE HOOKjCAPITAL LETTE"
      ++ "R ABKHASIAN HAjSMALL LETTER ABKHASIAN HAjCAPITAL LETTER ES WITH DESCENDERjSMALL LETT"
      ++ "ER ES WITH DESCENDERjCAPITAL LETTER TE WITH DESCENDERjSMALL LETTER TE WITH DESCENDER"
      ++ "jCAPITAL LETTER STRAIGHT UjSMALL LETTER STRAIGHT UjCAPITAL LETTER STRAIGHT U WITH ST"
      ++ "ROKEjSMALL LETTER STRAIGHT U WITH STROKEjCAPITAL LETTER HA WITH DESCENDERjSMALL LETT"
      ++ "ER HA WITH DESCENDERjCAPITAL LIGATURE TE TSEjSMALL LIGATURE TE TSEjCAPITAL LETTER CH"
      ++ "E WITH DESCENDERjSMALL LETTER CHE WITH DESCENDERjCAPITAL LETTER CHE WITH VERTICAL ST"
      ++ "ROKEjSMALL LETTER CHE WITH VERTICAL STROKEjCAPITAL LETTER SHHAjSMALL LETTER SHHAjCAP"
      ++ "ITAL LETTER ABKHASIAN CHEjSMALL LETTER ABKHASIAN CHEjCAPITAL LETTER ABKHASIAN CHE WI"
      ++ "TH DESCENDERjSMALL LETTER ABKHASIAN CHE WITH DESCENDERjLETTER PALOCHKAjCAPITAL LETTE"
      ++ "R ZHE WITH BREVEjSMALL LETTER ZHE WITH BREVEjCAPITAL LETTER KA WITH HOOKjSMALL LETTE"
      ++ "R KA WITH HOOKjCAPITAL LETTER EL WITH TAILjSMALL LETTER EL WITH TAILjCAPITAL LETTER "
      ++ "EN WITH HOOKjSMALL LETTER EN WITH HOOKjCAPITAL LETTER EN WITH TAILjSMALL LETTER EN W"
      ++ "ITH TAILjCAPITAL LETTER KHAKASSIAN CHEjSMALL LETTER KHAKASSIAN CHEjCAPITAL LETTER EM"
      ++ " WITH TAILjSMALL LETTER EM WITH TAILwPALOCHKAjCAPITAL LETTER A WITH BREVEjSMALL LETT"
      ++ "ER A WITH BREVEjCAPITAL LETTER A WITH DIAERESISjSMALL LETTER A WITH DIAERESISjCAPITA"
      ++ "L LIGATURE A IEjSMALL LIGATURE A IEjCAPITAL LETTER IE WITH BREVEjSMALL LETTER IE WIT"
      ++ "H BREVEjCAPITAL LETTER SCHWAjSMALL LETTER SCHWAjCAPITAL LETTER SCHWA WITH DIAERESISj"
      ++ "SMALL LETTER SCHWA WITH DIAERESISjCAPITAL LETTER ZHE WITH DIAERESISjSMALL LETTER ZHE"
      ++ " WITH DIAERESISjCAPITAL LETTER ZE WITH DIAERESISjSMALL LETTER ZE WITH DIAERESISjCAPI"
      ++ "TAL LETTER ABKHASIAN DZEjSMALL LETTER ABKHASIAN DZEjCAPITAL LETTER I WITH MACRON"),
    (0x04e3, "aCYRILLIC SMALL LETTER I WITH MACRONjCAPITAL LETTER I WITH DIAERESISjSMALL LETTER I "
      ++ "WITH DIAERESISjCAPITAL LETTER O WITH DIAERESISjSMALL LETTER O WITH DIAERESISjCAPITAL"
      ++ " LETTER BARRED OjSMALL LETTER BARRED OjCAPITAL LETTER BARRED O WITH DIAERESISjSMALL "
      ++ "LETTER BARRED O WITH DIAERESISjCAPITAL LETTER E WITH DIAERESISjSMALL LETTER E WITH D"
      ++ "IAERESISjCAPITAL LETTER U WITH MACRONjSMALL LETTER U WITH MACRONjCAPITAL LETTER U WI"
      ++ "TH DIAERESISjSMALL LETTER U WITH DIAERESISjCAPITAL LETTER U WITH DOUBLE ACUTEjSMALL "
      ++ "LETTER U WITH DOUBLE ACUTEjCAPITAL LETTER CHE WITH DIAERESISjSMALL LETTER CHE WITH D"
      ++ "IAERESISjCAPITAL LETTER GHE WITH DESCENDERjSMALL LETTER GHE WITH DESCENDERjCAPITAL L"
      ++ "ETTER YERU WITH DIAERESISjSMALL LETTER YERU WITH DIAERESISjCAPITAL LETTER GHE WITH S"
      ++ "TROKE AND HOOKjSMALL LETTER GHE WITH STROKE AND HOOKjCAPITAL LETTER HA WITH HOOKjSMA"
      ++ "LL LETTER HA WITH HOOKjCAPITAL LETTER HA WITH STROKEjSMALL LETTER HA WITH STROKEjCAP"
      ++ "ITAL LETTER KOMI DEjSMALL LETTER KOMI DEjCAPITAL LETTER KOMI DJEjSMALL LETTER KOMI D"
      ++ "JEjCAPITAL LETTER KOMI ZJEjSMALL LETTER KOMI ZJEjCAPITAL LETTER KOMI DZJEjSMALL LETT"
      ++ "ER KOMI DZJEjCAPITAL LETTER KOMI LJEjSMALL LETTER KOMI LJEjCAPITAL LETTER KOMI NJEjS"
      ++ "MALL LETTER KOMI NJEjCAPITAL LETTER KOMI SJEjSMALL LETTER KOMI SJEjCAPITAL LETTER KO"
      ++ "MI TJEjSMALL LETTER KOMI TJEjCAPITAL LETTER REVERSED ZEjSMALL LETTER REVERSED ZEjCAP"
      ++ "ITAL LETTER EL WITH HOOKjSMALL LETTER EL WITH HOOKjCAPITAL LETTER LHAjSMALL LETTER L"
      ++ "HAjCAPITAL LETTER RHAjSMALL LETTER RHAjCAPITAL LETTER YAEjSMALL LETTER YAEjCAPITAL L"
      ++ "ETTER QAjSMALL LETTER QAjCAPITAL LETTER WEjSMALL LETTER WEjCAPITAL LETTER ALEUT KAjS"
      ++ "MALL LETTER ALEUT KAjCAPITAL LETTER EL WITH MIDDLE HOOKjSMALL LETTER EL WITH MIDDLE "
      ++ "HOOKjCAPITAL LETTER EN WITH MIDDLE HOOK"),
    (0x0523, "aCYRILLIC SMALL LETTER EN WITH MIDDLE HOOKjCAPITAL LETTER PE WITH DESCENDERjSMALL LE"
      ++ "TTER PE WITH DESCENDERjCAPITAL LETTER SHHA WITH DESCENDERjSMALL LETTER SHHA WITH DES"
      ++ "CENDERjCAPITAL LETTER EN WITH LEFT HOOKjSMALL LETTER EN WITH LEFT HOOKjCAPITAL LETTE"
      ++ "R DZZHEjSMALL LETTER DZZHEjCAPITAL LETTER DCHEjSMALL LETTER DCHEjCAPITAL LETTER EL W"
      ++ "ITH DESCENDERjSMALL LETTER EL WITH DESCENDER"),
    (0x0531, "aARMENIAN CAPITAL LETTER AYByBENyGIMyDAyECHyZAyEHzTyTOyZHEyINIyLIWNyXEHyCAyKENyHOyJA"
      ++ "yGHADyCHEHyMENyYIyNOWySHAyVOyCHAyPEHyJHEHyRAySEHyVEWyTIWNyREHyCOyYIWNyPIWRyKEHyOHyFE"
      ++ "H"),
    (0x0559, "aARMENIAN MODIFIER LETTER LEFT HALF RINGjAPOSTROPHEjEMPHASIS MARKkXCLAMATION MARKjCO"
      ++ "MMAjQUESTION MARKjABBREVIATION MARKjSMALL LETTER TURNED AYBwAYBwBENwGIMwDAwECHwZAwEH"
      ++ "xTwTOwZHEwINIwLIWNwXEHwCAwKENwHOwJAwGHADwCHEHwMENwYIwNOWwSHAwVOwCHAwPEHwJHEHwRAwSEHw"
      ++ "VEWwTIWNwREHwCOwYIWNwPIWRwKEHwOHwFEHqIGATURE ECH YIWNqETTER YI WITH STROKEjFULL STOP"
      ++ "jHYPHEN"),
    (0x058d, "aRIGHT-FACING ARMENIAN ETERNITY SIGNaLEFT-FACING ARMENIAN ETERNITY SIGNaARMENIAN DRA"
      ++ "M SIGN"),
    (0x0591, "aHEBREW ACCENT ETNAHTAoSEGOLpHALSHELEToZAQEF QATANuGADOLoTIPEHAoREVIAoZARQAoPASHTAoY"
      ++ "ETIVoTEVIRoGERESHu MUQDAMrSHAYIMoQARNEY PARAoTELISHA GEDOLAoPAZERoATNAH HAFUKHoMUNAH"
      ++ "pAHAPAKHpERKHAu KEFULAoDARGAoQADMAoTELISHA QETANAoYERAH BEN YOMOoOLEoILUYoDEHIoZINOR"
      ++ "hMARK MASORA CIRCLEhPOINT SHEVAnHATAF SEGOLtPATAHtQAMATSoIRIQnTSEREnSEGOLnPATAHnQAMA"
      ++ "TSnHOLAMs HASER FOR VAVnQUBUTSnDAGESH OR MAPIQnMETEGiUNCTUATION MAQAFiOINT RAFEiUNCT"
      ++ "UATION PASEQiOINT SHIN DOToIN DOTiUNCTUATION SOF PASUQhMARK UPPER DOTmLOWER DOThPUNC"
      ++ "TUATION NUN HAFUKHAiOINT QAMATS QATAN"),
    (0x05d0, "aHEBREW LETTER ALEFoBEToGIMELoDALEToHEoVAVoZAYINoHEToTEToYODoFINAL KAFoKAFoLAMEDoFIN"
      ++ "AL MEMoMEMoFINAL NUNoNUNoSAMEKHoAYINoFINAL PEoPEoFINAL TSADIoTSADIoQOFoRESHoSHINoTAV"),
    (0x05ef, "aHEBREW YOD TRIANGLEhLIGATURE YIDDISH DOUBLE VAVyVAV YODyDOUBLE YODhPUNCTUATION GERE"
      ++ "SHwSHAYIM"),
    (0x0600, "aARABIC NUMBER SIGNhSIGN SANAHhFOOTNOTE MARKERhSIGN SAFHAoMVAThNUMBER MARK ABOVEg-IN"
      ++ "DIC CUBE ROOTnFOURTH ROOTg RAYg-INDIC PER MILLE SIGNrTEN THOUSAND SIGNbFGHANI SIGNbR"
      ++ "ABIC COMMAhDATE SEPARATORhPOETIC VERSE SIGNhSIGN MISRAmSALLALLAHOU ALAYHE WASSALLAMm"
      ++ "ALAYHE ASSALLAMmRAHMATULLAH ALAYHEoDI ALLAHOU ANHUmTAKHALLUSiMALL HIGH TAHsLIGATURE "
      ++ "ALEF WITH LAM WITH YEHsZAINnFATHAnDAMMAnKASRAiEMICOLONhLETTER MARKhEND OF TEXT MARKh"
      ++ "TRIPLE DOT PUNCTUATION MARKhQUESTION MARKhLETTER KASHMIRI YEHoHAMZAoALEF WITH MADDA "
      ++ "ABOVEyHAMZA ABOVEoWAW WITH HAMZA ABOVEoALEF WITH HAMZA BELOWoYEH WITH HAMZA ABOVEoAL"
      ++ "EFoBEHoTEH MARBUTArpHEHoJEEMoHAHoKHAHoDALoTHALoREHoZAINoSEENpHEENpADoDADoTAHoZAHoAIN"
      ++ "oGHAINoKEHEH WITH TWO DOTS ABOVEαHREE DOTS BELOWoFARSI YEH WITH INVERTED VδTWO DOTS "
      ++ "ABOVEεHREE DOTS ABOVE"),
    (0x0640, "aARABIC TATWEELhLETTER FEHoQAFoKAFoLAMoMEEMoNOONoHEHoWAWoALEF MAKSURAoYEHhFATHATANhD"
      ++ "AMMATANhKASRATANhFATHAhDAMMAhKASRAhSHADDAiUKUNhMADDAH ABOVEhHAMZA ABOVEnBELOWhSUBSCR"
      ++ "IPT ALEFhINVERTED DAMMAhMARK NOON GHUNNAhZWARAKAYhVOWEL SIGN SMALL V ABOVEsINVERTED "
      ++ "SMALL V ABOVEsDOT BELOWhREVERSED DAMMAhFATHA WITH TWO DOTShWAVY HAMZA BELOWg-INDIC D"
      ++ "IGIT ZEROtONEtTWOuHREEtFOURuIVEtSIXuEVENtEIGHTtNINEg PERCENT SIGNhDECIMAL SEPARATORh"
      ++ "THOUSANDS SEPARATORhFIVE POINTED STARhLETTER DOTLESS BEHwQAFoSUPERSCRIPT ALEFoALEF W"
      ++ "ASLAuITH WAVY HAMZA ABOVEκBELOWoHIGH HAMZAy ALEFzWAWoU WITH HAMZA ABOVEoHIGH HAMZA Y"
      ++ "EHoTTEHsEHoBEEHoTEH WITH RINGxTHREE DOTS ABOVE DOWNWARDSoPEHoTEHEH"),
    (0x0680, "aARABIC LETTER BEHEHoHAH WITH HAMZA ABOVExTWO DOTS VERTICAL ABOVEoNYEHoDYEHoHAH WITH"
      ++ " THREE DOTS ABOVEoTCHEHtEHoDDALpAL WITH RINGxDOT BELOWη AND SMALL TAHqHALpDAHALpULpA"
      ++ "L WITH THREE DOTS ABOVE DOWNWARDSxFOUR DOTS ABOVEoRREHpEH WITH SMALL VxRINGxDOT BELO"
      ++ "WxSMALL V BELOWxDOT BELOW AND DOT ABOVExTWO DOTS ABOVEoJEHoREH WITH FOUR DOTS ABOVEo"
      ++ "SEEN WITH DOT BELOW AND DOT ABOVEyTHREE DOTS BELOWο AND THREE DOTS ABOVEpAD WITH TWO"
      ++ " DOTS BELOWyHREE DOTS ABOVEoTAH WITH THREE DOTS ABOVEoAIN WITH THREE DOTS ABOVEoDOTL"
      ++ "ESS FEHoFEH WITH DOT MOVED BELOWβBELOWoVEHoFEH WITH THREE DOTS BELOWoPEHEHoQAF WITH "
      ++ "DOT ABOVExTHREE DOTS ABOVEoKEHEHoSWASH KAFoKAF WITH RINGxDOT ABOVEoNGoKAF WITH THREE"
      ++ " DOTS BELOWoGAFr WITH RINGoNGOEHoGAF WITH TWO DOTS BELOWpUEHpAF WITH THREE DOTS ABOV"
      ++ "EoLAM WITH SMALL VxDOT ABOVExTHREE DOTS ABOVEιBELOWoNOON WITH DOT BELOWtGHUNNAoRNOON"
      ++ "oNOON WITH RINGyTHREE DOTS ABOVEoHEH DOACHASHMEEoTCHEH WITH DOT ABOVE"),
    (0x06c0, "aARABIC LETTER HEH WITH YEH ABOVEsGOALw WITH HAMZA ABOVEoTEH MARBUTA GOALoWAW WITH R"
      ++ "INGoKIRGHIZ OEoOEoUoYUoKIRGHIZ YUoWAW WITH TWO DOTS ABOVEoVEoFARSI YEHoYEH WITH TAIL"
      ++ "xSMALL VoWAW WITH DOT ABOVEoEoYEH WITH THREE DOTS BELOWsBARREEy WITH HAMZA ABOVEhFUL"
      ++ "L STOPhLETTER AEhSMALL HIGH LIGATURE SAD WITH LAM WITH ALEF MAKSURAβQAF WITH LAM WIT"
      ++ "H ALEF MAKSURAsMEEM INITIAL FORMsLAM ALEFsJEEMsTHREE DOTSsSEENhEND OF AYAHhSTART OF "
      ++ "RUB EL HIZBiMALL HIGH ROUNDED ZEROsUPRIGHT RECTANGULAR ZEROsDOTLESS HEAD OF KHAHsMEE"
      ++ "M ISOLATED FORMnLOW SEENnHIGH MADDAnWAWnYEHnHIGH YEHsNOONhPLACE OF SAJDAHhEMPTY CENT"
      ++ "RE LOW STOPuHIGH STOPhROUNDED HIGH STOP WITH FILLED CENTREhSMALL LOW MEEMhLETTER DAL"
      ++ " WITH INVERTED VoREH WITH INVERTED VaEXTENDED ARABIC-INDIC DIGIT ZEROγONEγTWOδHREEγF"
      ++ "OURδIVEγSIXδEVENγEIGHTγNINEaARABIC LETTER SHEEN WITH DOT BELOWoDAD WITH DOT BELOWoGH"
      ++ "AIN WITH DOT BELOWhSIGN SINDHI AMPERSANDtPOSTPOSITION MENhLETTER HEH WITH INVERTED V"),
    (0x0700, "aSYRIAC END OF PARAGRAPHhSUPRALINEAR FULL STOPjBLINEAR FULL STOPjPRALINEAR COLONjBLI"
      ++ "NEAR COLONhHORIZONTAL COLONhCOLON SKEWED LEFTuRIGHThSUPRALINEAR COLON SKEWED LEFTjBL"
      ++ "INEAR COLON SKEWED RIGHThCONTRACTIONhHARKLEAN OBELUSqMETOBELUSqASTERISCUS"),
    (0x070f, "aSYRIAC ABBREVIATION MARKhLETTER ALAPHoSUPERSCRIPT ALAPHoBETHoGAMALt GARSHUNIoDALATH"
      ++ "pOTLESS DALATH RISHoHEoWAWoZAINoHETHoTETHs GARSHUNIoYUDHs HEoKAPHoLAMADHoMIMoNUNoSEM"
      ++ "KATHoFINAL SEMKATHoEoPEoREVERSED PEoSADHEoQAPHoRISHoSHINoTAWoPERSIAN BHETHwGHAMALwDH"
      ++ "ALATHhPTHAHA ABOVEoBELOWoDOTTEDhZQAPHA ABOVEoBELOWoDOTTEDhRBASA ABOVEnBELOWhDOTTED Z"
      ++ "LAMA HORIZONTALuANGULARhHBASA ABOVEnBELOWm-ESASA DOTTEDhESASA ABOVEnBELOWhRWAHAhFEMI"
      ++ "NINE DOThQUSHSHAYAhRUKKAKHAhTWO VERTICAL DOTS ABOVEzBELOWiHREE DOTS ABOVEsBELOWhOBLI"
      ++ "QUE LINE ABOVEuBELOWhMUSIChBARREKH"),
    (0x074d, "aSYRIAC LETTER SOGDIAN ZHAINwKHAPHwFEaARABIC LETTER BEH WITH THREE DOTS HORIZONTALLY"
      ++ " BELOWxDOT BELOW AND THREE DOTS ABOVExTHREE DOTS POINTING UPWARDS BELOWωS BELOW AND "
      ++ "TWO DOTS ABOVEyWO DOTS BELOW AND DOT ABOVExINVERTED SMALL V BELOWxSMALL VoHAH WITH T"
      ++ "WO DOTS ABOVEyHREE DOTS POINTING UPWARDS BELOWoDAL WITH TWO DOTS VERTICALLY BELOW AN"
      ++ "D SMALL TAHxINVERTED SMALL V BELOWoREH WITH STROKEoSEEN WITH FOUR DOTS ABOVEoAIN WIT"
      ++ "H TWO DOTS ABOVEyHREE DOTS POINTING DOWNWARDS ABOVEyWO DOTS VERTICALLY ABOVEoFEH WIT"
      ++ "H TWO DOTS BELOWyHREE DOTS POINTING UPWARDS BELOWoKEHEH WITH DOT ABOVEzTHREE DOTS AB"
      ++ "OVEλPOINTING UPWARDS BELOWoMEEM WITH DOT ABOVEγBELOWoNOON WITH TWO DOTS BELOWySMALL "
      ++ "TAHεVoLAM WITH BARoREH WITH TWO DOTS VERTICALLY ABOVExHAMZA ABOVEoSEEN WITH TWO DOTS"
      ++ " VERTICALLY ABOVEoHAH WITH SMALL ARABIC LETTER TAH BELOWχAND TWO DOTSoSEEN WITH SMAL"
      ++ "L ARABIC LETTER TAH AND TWO DOTSoREH WITH SMALL ARABIC LETTER TAH AND TWO DOTSoHAH W"
      ++ "ITH SMALL ARABIC LETTER TAH ABOVEoALEF WITH EXTENDED ARABIC-INDIC DIGIT TWO ABOVEωIT"
      ++ " THREE ABOVEoFARSI YEH WITH EXTENDED ARABIC-INDIC DIGIT TWO ABOVEωC DIGIT THREE ABOV"
      ++ "EωC DIGIT FOUR BELOWoWAW WITH EXTENDED ARABIC-INDIC DIGIT TWO ABOVEωT THREE ABOVEoYE"
      ++ "H BARREE WITH EXTENDED ARABIC-INDIC DIGIT TWO ABOVEωIC DIGIT THREE ABOVEoHAH WITH EX"
      ++ "TENDED ARABIC-INDIC DIGIT FOUR BELOWoSEEN WITH EXTENDED ARABIC-INDIC DIGIT FOUR ABOV"
      ++ "EyINVERTED VoKAF WITH TWO DOTS ABOVEaTHAANA LETTER HAAoSHAVIYANIoNOONUoRAAoBAAoLHAVI"
      ++ "YANIoKAAFUoALIFUoVAAVUoMEEMUoFAAFUoDHAALUoTHAA"),
    (0x078d, "aTHAANA LETTER LAAMUoGAAFUpNAVIYANIoSEENUoDAVIYANIoZAVIYANIoTAVIYANIoYAAoPAVIYANIoJA"
      ++ "VIYANIoCHAVIYANIoTTAAoHHAAoKHAAoTHAALUoZAAoSHEENUpAADHUoDAADHUoTOoZOoAINUoGHAINUoQAA"
      ++ "FUoWAAVUhABAFILIiABAAFILIhIBIFILIhEEBEEFILIhUBUFILIhOOBOOFILIhEBEFILIiYBEYFILIhOBOFI"
      ++ "LIiABOAFILIhSUKUNhLETTER NAA"),
    (0x07c0, "aNKO DIGIT ZEROkONEkTWOlHREEkFOURlIVEkSIXlEVENkEIGHTkNINEeLETTER AlEElIlElUlOOmlDAGB"
      ++ "ASINNAlNlBAlPAlTAlJAlCHAlDAlRAmRAlSAlGBAlFAlKAlLAlNA WOLOSOlMAlNYAmAlHAlWAlYAlNYA WO"
      ++ "LOSOlJONA JAqCHAqRAeCOMBINING SHORT HIGH TONEuLOW TONEuRISING TONEoLONG DESCENDING T"
      ++ "ONEtHIGH TONEtLOW TONEtRISING TONEoNASALIZATION MARKoDOUBLE DOT ABOVEeHIGH TONE APOS"
      ++ "TROPHEeLOW TONE APOSTROPHEeSYMBOL OO DENNENlGBAKURUNENeCOMMAeEXCLAMATION MARKeLAJANY"
      ++ "ALAN"),
    (0x07fd, "aNKO DANTAYALANfOROME SIGNeTAMAN SIGNaSAMARITAN LETTER ALAFrBITrGAMANrDALATrIYrBAArZ"
      ++ "ENrITrTITrYUTrKAAFrLABATrMIMrNUNrSINGAATrINrFIrTSAADIYrQUFrRISHrSHANrTAAFkMARK INr-A"
      ++ "LAFpOCCLUSIONpDAGESHlODIFIER LETTER EPENTHETIC YUTlARK EPENTHETIC YUTkVOWEL SIGN LON"
      ++ "G EvEvOVERLONG AAvLONG AAvAAvOVERLONG AvLONG AvAkMODIFIER LETTER SHORT AkVOWEL SIGN "
      ++ "SHORT AvLONG UvUkMODIFIER LETTER IkVOWEL SIGN LONG IvIvOvSUKUNkMARK NEQUDAA"),
    (0x0830, "aSAMARITAN PUNCTUATION NEQUDAAwAFSAAQxNGEDwBAUwATMAAUwSHIYYAALAAkABBREVIATION MARKkP"
      ++ "UNCTUATION MELODIC QITSAwZIQAAwQITSAwZAEFwTURUwARKAANUwSOF MASHFAATwANNAAU"),
    (0x0840, "aMANDAIC LETTER HALQApABqGqDqHpUSHENNApAZpITpATTqKSArqLqMqNqSpINpAPqSZqQqRqSHqTpDUSH"
      ++ "ENNApKADpAINiAFFRICATION MARKiVOCALIZATION MARKiGEMINATION MARK"),
    (0x085e, "aMANDAIC PUNCTUATION"),
    (0x0860, "aSYRIAC LETTER MALAYALAM NGAyJAyNYAyTTAyNNAαNAyBHAyRAyLLAαLAySSA"),
    (0x0870, "aARABIC LETTER ALEF WITH ATTACHED FATHAθTOP RIGHT FATHAyRIGHT MIDDLE STROKEyLEFT MID"
      ++ "DLE STROKEyATTACHED KASRAθBOTTOM RIGHT KASRAθROUND DOT ABOVEιIGHT ROUND DOTθLEFT ROU"
      ++ "ND DOTθROUND DOT BELOWyDOT ABOVEyATTACHED TOP RIGHT FATHA AND DOT ABOVEyRIGHT MIDDLE"
      ++ " STROKE AND DOT ABOVEyATTACHED BOTTOM RIGHT KASRA AND DOT ABOVEθTOP RIGHT FATHA AND "
      ++ "LEFT RINGyRIGHT MIDDLE STROKE AND LEFT RINGyATTACHED BOTTOM RIGHT KASRA AND LEFT RIN"
      ++ "GθRIGHT HAMZAθLEFT HAMZAhTATWEEL WITH OVERSTRUCK HAMZAζWAWuTWO DOTS BELOWhLETTER THI"
      ++ "N YEHhBASELINE ROUND DOThRAISED ROUND DOThLETTER NOON WITH INVERTED SMALL VoHAH WITH"
      ++ " INVERTED SMALL V BELOWoTAH WITH DOT BELOWxTHREE DOTS BELOWoKEHEH WITH TWO DOTS VERT"
      ++ "ICALLY BELOWhVERTICAL TAIL"),
    (0x0890, "aARABIC POUND MARK ABOVEiIASTRE MARK ABOVE"),
    (0x0898, "aARABIC SMALL HIGH WORD AL-JUZnLOW WORD ISHMAAMxMAALAwTASHEELhMADDA WAAJIBhSUPERSCRI"
      ++ "PT ALEF MOKHASSAShDOUBLED MADDAhHALF MADDA OVER MADDAhLETTER BEH WITH SMALL V BELOWx"
      ++ "HAMZA ABOVEoJEEM WITH TWO DOTS ABOVEoTAH WITH TWO DOTS ABOVEoFEH WITH DOT BELOW AND "
      ++ "THREE DOTS ABOVEoQAF WITH DOT BELOWoLAM WITH DOUBLE BARoMEEM WITH THREE DOTS ABOVEoY"
      ++ "EH WITH TWO DOTS BELOW AND HAMZA ABOVEρDOT ABOVEoREH WITH LOOPoWAW WITH DOT WITHINoR"
      ++ "OHINGYA YEHoLOW ALEFoDAL WITH THREE DOTS BELOWoSAD WITH THREE DOTS BELOWoGAF WITH IN"
      ++ "VERTED STROKEoSTRAIGHT WAWoZAIN WITH INVERTED V ABOVEoAIN WITH THREE DOTS BELOWoKAF "
      ++ "WITH DOT BELOWoQAF WITH DOT BELOW AND NO DOTS ABOVEoBEH WITH SMALL MEEM ABOVEoPEH WI"
      ++ "TH SMALL MEEM ABOVEoTEH WITH SMALL TEH ABOVEoREH WITH SMALL NOON ABOVEoYEH WITH TWO "
      ++ "DOTS BELOW AND SMALL NOON ABOVEoAFRICAN FEHwQAFwNOONoPEH WITH SMALL VoTEH WITH SMALL"
      ++ " VpTEH WITH SMALL VpCHEH WITH SMALL VoKEHEH WITH SMALL VoGHAIN WITH THREE DOTS ABOVE"
      ++ "oAFRICAN QAF WITH THREE DOTS ABOVEoJEEM WITH THREE DOTS ABOVEκBELOWoLAM WITH SMALL A"
      ++ "RABIC LETTER TAH ABOVEoGRAFhSMALL FARSI YEHnHIGH FARSI YEHsYEH BARREE WITH TWO DOTS "
      ++ "BELOWsWORD SAHsZAHhLARGE ROUND DOT ABOVExBELOWhSUKUN BELOWhLARGE CIRCLE BELOWnROUND "
      ++ "DOT INSIDE CIRCLE BELOWhSMALL LOW WAWnHIGH WORD AR-RUBsSADsAINsQAF"),
    (0x08d8, "aARABIC SMALL HIGH NOON WITH KASRAnLOW NOON WITH KASRAnHIGH WORD ATH-THALATHAyS-SAJD"
      ++ "AyN-NISFxSAKTAxQIFxWAQFAsFOOTNOTE MARKERsSIGN SAFHAhDISPUTED END OF AYAHhTURNED DAMM"
      ++ "A BELOWhCURLY FATHAnDAMMAnKASRAnFATHATANnDAMMATANnKASRATANhTONE ONE DOT ABOVEmTWO DO"
      ++ "TS ABOVEmLOOP ABOVEmONE DOT BELOWmTWO DOTS BELOWmLOOP BELOWhOPEN FATHATANmDAMMATANmK"
      ++ "ASRATANhSMALL HIGH WAWhFATHA WITH RINGsDOT ABOVEhKASRA WITH DOT BELOWhLEFT ARROWHEAD"
      ++ " ABOVEhRIGHT ARROWHEAD ABOVEhLEFT ARROWHEAD BELOWhRIGHT ARROWHEAD BELOWhDOUBLE RIGHT"
      ++ " ARROWHEAD ABOVEκ WITH DOThRIGHT ARROWHEAD ABOVE WITH DOThDAMMA WITH DOThMARK SIDEWA"
      ++ "YS NOON GHUNNAaDEVANAGARI SIGN INVERTED CANDRABINDUqCANDRABINDUqANUSVARAqVISARGAlLET"
      ++ "TER SHORT AsAtAsItIsUtUsVOCALIC RαLsCANDRA EsSHORT EsEsAIsCANDRA OsSHORT OsOsAUsKAtH"
      ++ "AsGA")
  ]

end ApiBridge.Text
