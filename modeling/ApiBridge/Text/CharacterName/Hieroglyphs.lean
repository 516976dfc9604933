/-!
# Names of characters: hieroglyphs

Hieroglyphs and further letters of ancient and of rare scripts. A run starts at a code point; a
name starts with a mark for how much it shares with the one before.
-/

namespace ApiBridge.Text

/-- The names of these characters, in runs. -/
def hieroglyphsNames : List (Nat × String) :=
  [
    (0x13000, "aEGYPTIAN HIEROGLYPH A001x2x3x4x5yAx6yAyBx7x8x9w10x1x2x3x4yAx5x6x7yAx8x9w20x1x2x3x4x"
      ++ "5x6x7x8x9w30x1x2yAx3x4x5x6x7x8x9w40yAx1x2yAx3yAx4x5yAx6x7x8x9w50x1x2x3x4"),
    (0x13040, "aEGYPTIAN HIEROGLYPH A055x6x7x8x9w60x1x2x3x4x5x6x7x8x9w70uB001x2x3x4x5yAx6x7x8x9uC00"
      ++ "1x2yAyByCx3x4x5x6x7x8x9w10yAx1x2x3x4x5x6x7x8x9w20x1x2x3x4uD001x2x3x4x5x6x7x8yAx9"),
    (0x13080, "aEGYPTIAN HIEROGLYPH D010x1x2x3x4x5x6x7x8x9w20x1x2x3x4x5x6x7yAx8x9w30x1yAx2x3x4yAx5x"
      ++ "6x7x8x9w40x1x2x3x4x5x6yAx7x8yAx9w50yAyByCyDyEyFyGyHyIx1x2yAx3x4yAx5x6x7"),
    (0x130c0, "aEGYPTIAN HIEROGLYPH D058x9w60x1x2x3x4x5x6x7yAyByCyDyEyFyGyHuE001x2x3x4x5x6x7x8yAx9y"
      ++ "Aw10x1x2x3x4x5x6yAx7yAx8x9w20yAx1x2x3x4x5x6x7x8yAx9w30x1x2x3x4yAx6x7x8uF001yA"),
    (0x13100, "aEGYPTIAN HIEROGLYPH F002x3x4x5x6x7x8x9w10x1x2x3yAx4x5x6x7x8x9w20x1yAx2x3x4x5x6x7x8x"
      ++ "9w30x1yAx2x3x4x5x6x7yAx8yAx9w40x1x2x3x4x5yAx6yAx7yAx8x9w50x1yAyByCx2x3uG001"),
    (0x13140, "aEGYPTIAN HIEROGLYPH G002x3x4x5x6yAx7yAyBx8x9w10x1yAx2x3x4x5x6x7x8x9w20yAx1x2x3x4x5x"
      ++ "6yAx7x8x9w30x1x2x3x4x5x6yAx7yAx8x9w40x1x2x3yAx4x5yAx6x7x8x9w50x1x2x3x4uH001"),
    (0x13180, "aEGYPTIAN HIEROGLYPH H002x3x4x5x6yAx7x8uI001x2x3x4x5yAx6x7x8x9yAw10yAx1yAx2x3x4x5uK0"
      ++ "01x2x3x4x5x6x7x8uL001x2yAx3x4x5x6yAx7x8uM001yAyBx2x3yAx4x5x6x7x8x9w10yAx1x2yAyByC"),
    (0x131c0, "aEGYPTIAN HIEROGLYPH M012DyEyFyGyHx3x4x5yAx6yAx7yAx8x9w20x1x2yAx3x4yAx5x6x7x8yAx9w30"
      ++ "x1yAx2x3yAyBx4x5x6x7x8x9w40yAx1x2x3x4uN001x2x3x4x5x6x7x8x9w10x1x2x3x4x5x6x7"),
    (0x13200, "aEGYPTIAN HIEROGLYPH N018yAyBx9w20x1x2x3x4x5yAx6x7x8x9w30x1x2x3yAx4yAx5yAx6x7yAx8x9w"
      ++ "40x1x2vL001y2y3y4y5zAy6y7y8y9x10y1y2y3y4y5y6y7zAy8y9x20vU001y2y3y4y5y6y7y8y9x10"),
    (0x13240, "aEGYPTIAN HIEROGLYPH NU010Ay1zAy2y3y4y5y6y7y8zAy9x20y1y2zAuO001yAx2x3x4x5yAx6yAyByCy"
      ++ "DyEyFx7x8x9w10yAyByCx1x2x3x4x5x6x7x8x9yAw20yAx1x2x3x4yAx5yAx6x7x8x9yAw30yAx1"),
    (0x13280, "aEGYPTIAN HIEROGLYPH O032x3yAx4x5x6yAyByCyDx7x8x9w40x1x2x3x4x5x6x7x8x9w50yAyBx1uP001"
      ++ "yAx2x3yAx4x5x6x7x8x9w10x1uQ001x2x3x4x5x6x7uR001x2yAx3yAyBx4x5x6x7x8x9w10yAx1x2x3"),
    (0x132c0, "aEGYPTIAN HIEROGLYPH R014x5x6yAx7x8x9w20x1x2x3x4x5x6x7x8x9uS001x2yAx3x4x5x6yAx7x8x9w"
      ++ "10x1x2x3x4yAyBx5x6x7yAx8x9w20x1x2x3x4x5x6yAyBx7x8x9w30x1x2x3x4x5yAx6x7x8x9"),
    (0x13300, "aEGYPTIAN HIEROGLYPH S040x1x2x3x4x5x6uT001x2x3yAx4x5x6x7yAx8yAx9yAw10x1yAx2x3x4x5x6y"
      ++ "Ax7x8x9w20x1x2x3x4x5x6x7x8x9w30x1x2yAx3yAx4x5x6uU001x2x3x4x5x6yAyBx7x8x9w10x1"),
    (0x13340, "aEGYPTIAN HIEROGLYPH U012x3x4x5x6x7x8x9w20x1x2x3yAx4x5x6x7x8x9yAw30x1x2yAx3x4x5x6x7x"
      ++ "8x9w40x1x2uV001yAyByCyDyEyFyGyHyIx2yAx3x4x5x6x7yAyBx8x9w10x1yAyByCx2yAyBx3"),
    (0x13380, "aEGYPTIAN HIEROGLYPH V014x5x6x7x8x9w20yAyByCyDyEyFyGyHyIyJyKyLx1x2x3yAx4x5x6x7x8yAx9"
      ++ "yAw30yAx1yAx2x3yAx4x5x6x7yAx8x9w40yAuW001x2x3yAx4x5x6x7x8x9yAw10yAx1x2x3x4"),
    (0x133c0, "aEGYPTIAN HIEROGLYPH W014Ax5x6x7yAx8yAx9w20x1x2x3x4yAx5uX001x2x3x4yAyBx5x6yAx7x8yAuY"
      ++ "001yAx2x3x4x5x6x7x8uZ001x2yAyByCyDx3yAyBx4yAx5yAx6x7x8x9w10x1x2x3x4x5yAyByCyDyE"),
    (0x13400, "aEGYPTIAN HIEROGLYPH Z015FyGyHyIx6yAyByCyDyEyFyGyHuAA001y2y3y4y5y6y7zAzBy8y9x10y1y2y"
      ++ "3y4y5y6y7y8y9x20y1y2y3y4y5y6y7y8y9x30y1y2"),
    (0x13430, "aEGYPTIAN HIEROGLYPH VERTICAL JOINERuHORIZONTAL JOINERuINSERT AT TOP STARTεBOTTOM ST"
      ++ "ARTεTOP ENDεBOTTOM ENDuOVERLAY MIDDLEuBEGIN SEGMENTuEND SEGMENT"),
    (0x14400, "aANATOLIAN HIEROGLYPH A001y2y3y4y5y6y7y8y9x10zAy1y2y3y4y5y6y7y8y9x20y1y2y3y4y5y6zAy7"
      ++ "y8y9x30y1y2y3y4y5y6y7y8y9zAx40y1zAy2y3y4y5zAy6zAzBy7y8y9x50y1y2y3y4y5y6y7"),
    (0x14440, "aANATOLIAN HIEROGLYPH A058y9x60y1y2y3y4y5y6zAzBzCy7y8y9x70y1y2y3y4y5y6y7y8y9x80y1y2y"
      ++ "3y4y5y6y7y8y9x90y1y2y3y4y5y6y7zAy8zAy9w100zAy1zAy2zAy3y4zAzBzCy5zAzBy6y7zA"),
    (0x14480, "aANATOLIAN HIEROGLYPH A107BzCy8y9x10zAzBy1y2y3y4y5zAy6y7y8y9x20y1y2y3y4y5zAy6y7y8y9x"
      ++ "30y1y2y3y4y5zAy6y7y8y9x40y1y2y3y4y5y6y7y8y9x50y1y2y3y4y5y6y7y8y9x60y1y2y3y4"),
    (0x144c0, "aANATOLIAN HIEROGLYPH A165y6y7y8y9x70y1y2y3y4y5y6y7y8y9x80y1y2y3y4y5y6y7y8y9x90y1y2y"
      ++ "3y4y5y6y7y8y9w200y1y2zAzBy3y4y5y6y7zAy8y9zAx10y1y2y3y4y5zAy6zAy7y8y9x20y1y2"),
    (0x14500, "aANATOLIAN HIEROGLYPH A223y4y5y6y7zAy8y9x30y1y2y3y4y5y6y7y8y9x40y1y2y3y4y5y6y7y8y9x5"
      ++ "0y1y2y3y4y5y6y7y8y9x60y1y2y3y4y5y6y7zAy8y9x70y1y2y3y4y5y6y7y8y9x80y1y2y3y4"),
    (0x14540, "aANATOLIAN HIEROGLYPH A285y6y7y8y9zAx90y1y2y3y4zAy5y6y7y8y9zAw300y1y2y3y4y5y6y7y8y9z"
      ++ "Ax10y1y2y3y4y5y6y7y8y9x20y1y2y3y4y5y6y7y8y9zAx30y1y2AzBzCy3y4y5y6zAzBzCy7y8"),
    (0x14580, "aANATOLIAN HIEROGLYPH A339x40y1y2y3y4y5y6y7y8y9x50y1y2y3y4y5y6y7y8y9zAx60y1y2y3y4zAy"
      ++ "5y6y7y8zAy9x70y1zAy2y3y4y5y6y7y8y9x80y1zAy2y3 RA OR RIzAy4y5y6zAy7y8y9x90y1y2y3 EIGH"
      ++ "Ty4y5"),
    (0x145c0, "aANATOLIAN HIEROGLYPH A396y7y8y9w400y1y2y3y4y5y6y7y8y9x10 BEGIN LOGOGRAM MARKzA END "
      ++ "LOGOGRAM MARKy1y2y3y4y5y6y7y8y9x20y1y2y3y4y5y6y7y8y9x30y1y2y3y4y5y6y7y8y9x40y1y2y3y4"
      ++ "y5y6y7y8y9x50zAy1y2y3y4y5y6y7"),
    (0x14600, "aANATOLIAN HIEROGLYPH A457Ay8y9x60y1y2y3y4y5y6y7y8y9x70y1y2y3y4y5y6y7y8y9x80y1y2y3y4"
      ++ "y5y6y7y8y9x90y1y2y3y4y5y6y7w501y2y3y4y5y6y7y8y9x10y1y2y3y4y5y6y7y8y9x20y1y2y3"),
    (0x14640, "aANATOLIAN HIEROGLYPH A524y5y6y7y8y9x30"),
    (0x16800, "aBAMUM LETTER PHASE-A NGKUE MFONvGBIEE FONvPON MFON PIPAEMGBIEEλBAvNAA MFONvSHUENSHU"
      ++ "ETvTITA MFONvNZA MFONvSHINDA PA NJIvPON PA NJI PIPAEMGBIEEνBAvMAEMBGBIEEvTU MAEMBAvN"
      ++ "GANGUvMAEMVEUXxNSUAEwVEUAENGAMvSEUNYAMvNTOQPENvKEUKEUTNDAvNKINDIvSUUvNGKUENZEUMvLAPA"
      ++ "QwET KUTvNTAP MFAAvMAEKEUPvPASHAEvGHEUAERAEvPAMSHAEvMON NGGEUAETvNZUN MEUTvU YUQ NAE"
      ++ "vGHEUAEGHEUAEvNTAP NTAAvSISAvMGBASAwEUNJOMNDEUQwOOMPUQvKAFAvPA LEERAEWAvNDA LEERAEWA"
      ++ "vPETvMAEMKPENvNIKAvPUPvTUAEPvLUAEPvSONJAMvTEUTEUWENvMAENYIvKETvNDAANGGEUAETvKUOQvMOO"
      ++ "MEUTvSHUMvLOMMAEvFIRIvROMvKPOQvSOQvMAP PIEETvSHIRAEvNTAP"),
    (0x16840, "aBAMUM LETTER PHASE-A SHOQ NSHUT YUMvNYIT MONGKEUAEQvPAARAEvNKAARAEvUNKNOWNvNGGENvMA"
      ++ "ESIvNJAMvMBANYIvNYETvTEUAENvSOTvPAAMvNSHIEEvMAEMvNYIvKAQvNSHAvVEEvLUvNENwAQvMBAQtB N"
      ++ "SHUETvTU MAEMGBIEEvSIEEwET TUvLOM NTEUMvMBA MAELEEvKIEEMvYEURAEvMBAARAEvKAMvPEESHIvY"
      ++ "AFU LEERAEWAvLAM NSHUT NYAMvNTIEE SHEUOQwDU NJAAvGHEUGHEUAEMvPITvTU NSIEEvSHET NJAQy"
      ++ "UAEQTUvMFON TEUAEQwBIT MBAAKETvNYI NTEUMvKEUPUQvGHEUGHENvKEUYEUXvLAANAEvPARUMvVEUMvN"
      ++ "GKINDI MVOPxGEU MBUvWUAETvSAKEUAEvTAAMvMEUQvNGGUOQβ LARGEvMFIYAQvSUEvMBEURIwONTIEEN"),
    (0x16880, "aBAMUM LETTER PHASE-B NYAEMAEvPUNGAAMvMEUT NGGEETvFEUXvMBUOQvFEEvKEUAEMvMA NJEUAENAα"
      ++ "UQAvLETvNGGAAMwSENvMAvKIQvNGOMtC NGKUE MAEMBAwZAvYUMvWANGKUOQvNGGENwDEUAEREEwGKAQvGH"
      ++ "ARAEvMBEEKEETvGBAYIvNYIR MKPARAQ MEUNwTU MBITvMBEUMvPIRIEENvNDOMBUvMBAA CABBAGE-TREE"
      ++ "vKEUSHEUAEPvGHAPvKEUKAQvYU MUOMAEvNZEUMvMBUEvNSEUAENvMBITvYEUQvKPARAQwAAvSEUXvNDIDAv"
      ++ "TAASHAEvNJUEQvTITA YUEvSUAETvNGGUAEN NYAMvVEUXvNANSANAQvMA KEUAERIvNTAAwGGUONvLAPvMB"
      ++ "IRIEENwGBASAQvNTEUNGBAvTEUTEUXvNGGUMvFUEvNDEUTwSAxHAQ"),
    (0x168c0, "aBAMUM LETTER PHASE-C BUNGvVEUAEPENvMBERAEvRUvNJAEMvLAMvTITUAEPvNSUOT NGOMwJEEEEvKET"
      ++ "vNGGUvMAESIwBUAEMvLUvKUTvNJAMwGOMvWUPvNGGUEETwSOMwTENvKUOP NKAARAEvNSUNwDAMvMA NSIEE"
      ++ "vYAAvNDAPvSHUEQwETFONvMBIwAEMBAwBANYIvKEUSEUXvMBEUXvKEUMvMBAA PICKETvYUWOQvNJEUXvMIE"
      ++ "EwUAEvSHIQvKEN LAWzFATIGUEvNGAQwAQvLIQvPINwENvTETtD MBUOvWAPvNJIvMFONvNJIEEvLIEEvNJE"
      ++ "UTwSHEEwGGAAMAEwYAMvWUAENvNGKUNvSHEEvNGKAPvKEUAETMEUN"),
    (0x16900, "aBAMUM LETTER PHASE-D TEUTvSHEUAEvNJAPvSUEvKETvYAEMMAEvKUOMvSAPvMFEUTvNDEUXvMALEERIw"
      ++ "EUTvSEUAEQvYENvNJEUAEMvKEUOT MBUAEvNGKEURIvTUvGHAAvNGKYEEvFEUFEUAETvNDEEvMGBOFUMvLEU"
      ++ "AEPvNDONvMONIwGBEUNvPUUTvMGBIEEwFOvLUMvNSIEEPvMBAAvKWAETvNYETvTEUAENvSOTvYUWOQvKEUMv"
      ++ "RAEMvTEEEEvNGKEUAEQvMFEUAEvNSIEETvKEUPvPIPwEUTAEvNYUEvLETvNGGAAMvMFIEEvNGGWAENvYUOMv"
      ++ "PAPvYUOPvNDAMwTEUMvSUAEvKUNvNGGEUXxKIEEvTUOTvMEUNvKUQ"),
    (0x16940, "aBAMUM LETTER PHASE-D NSUMvTEUNvMAENJETvNGGAPvLEUMvNGGUOMwSHUTwJUEQvGHEUAEvKUvREN OL"
      ++ "DvTAEwOQvNYIvRIIvLEEEEvMEEEEwvSUUvMUvSHIIxEUXvKYEEvNUvSHUvNTEEvPEEvNIvSHOQvPUQvMVOPv"
      ++ "LOQvREN MUCHvTIvNTUUvMBAA SEVENvSAQvFAAtE NDAPvTOONvMBEUMvLAPvVOMvLOONvPAAvSOMvRAQvN"
      ++ "SHUOPwDUNvPUAEvTAMvNGKAvKPEUXvWUOvSEEvNGGEUAETvPAAMvTOOvKUOPvLOMvNSHIEEwGOPvMAEMvNGK"
      ++ "EUX"),
    (0x16980, "aBAMUM LETTER PHASE-E NGOQwSHUEvRIMGBAvNJEUXvPEEMvSAAvNGGURAEvMGBAvGHEUXvNGKEUAEMwJA"
      ++ "EMLIvMAPvLOOTvNGGEEEEwDIQvTAEN NTEUMvSETvPUMvNDAA SOFTNESSwGGUAESHAE NYAMvYIEEvGHEUN"
      ++ "vTUAEvYEUAEvPOvTUMAEvKEUAEvSUAENvTEUAEQvVEUAEvWEUXvLAAMvPUvTAAQvGHAAMAEvNGEUREUTvSHE"
      ++ "UAEQvMGBENwBEEvNZAQwKOMvGBETvTUMvKUETvYAPvNYI CLEAVERvYITvMFEUQvNDIAQvPIEEQvYUEQvLEU"
      ++ "AEMvFUEvGBEUXvNGKUPvKETvMAEvNGKAAMIvGHETvFAvNTUMvPEUTvYEUMvNGGEUAE"),
    (0x169c0, "aBAMUM LETTER PHASE-E NYI BETWEENwZUQvPOONvMIEEvFUETvNAEvMUAEvGHEUAEvFU IvMVIvPUAQvN"
      ++ "GKUMvKUTvPIETvNTAPvYEUAETvNGGUPvPA PEOPLEvFU CALLwOMvNJEEvAvTOQvOvIvLAQvPA PLURALvTA"
      ++ "AxQvNDAA MY HOUSEvSHIQvYEUXvNGUAEvYUAENwOQ SWIMMINGzCOVERwUQxNvKEUXvPEUXvNJEE EPOCHv"
      ++ "PUEvWUEvFEEvVEEvLUvMIvREUXwAEvNGUAETxAvSHOyQvFU REMEDYvNAvPIvLOQvKOvMENwAxQvTEUvKIvM"
      ++ "ON"),
    (0x16a00, "aBAMUM LETTER PHASE-E TENvFAQvGHOMtF KAvUvKUvEEvREEvTAEvNYIvLAvRIIxEEvMEEEEvTAAvNDAA"
      ++ "wJAEMvMvSUUwHIIwIwEUXvKYEEwETvNUAExwJUAEvYOQvSHUvYAvNSHAvPEUXvNTEEvWUEvPEEvRUvNIvREU"
      ++ "XvKENvNGKWAENxGAvSHOvPUAEvFOMvWAvLIwOQvKOvMBENvRENvMAwOwBAAvTETvKPAvSAMBAvVUEQ"),
    (0x16a40, "aMRO LETTER TAlNGIlYOlMIMlBAlDAlAlPHIlKHAIlHAOlDAIlCHUlKEAAElOLlMAEMlNINlPAlOOmlROlS"
      ++ "HIlTHEAlEAlWAlElKOlLANnlHAIlRIlTEK"),
    (0x16a60, "aMRO DIGIT ZEROkONEkTWOlHREEkFOURlIVEkSIXlEVENkEIGHTkNINE"),
    (0x16a6e, "aMRO DANDAfOUBLE DANDAaTANGSA LETTER OZpCpQpXoAZpCpQpXoVZpCpQpXoEZpCpQpXoIZpCpQpXoUZ"
      ++ "pCpQpXoAWZqCqQqXoUIZqCqQqXoFINAL NGoLONG UEXoSHORT UEZuAWXoUECqZqQqXpIUZrCrQrXoMZpCp"
      ++ "QpXoKApHAoGAoNGAoSAoYAoWAoPAoNYAoPHAoBAoMAoNAoHA"),
    (0x16aae, "aTANGSA LETTER LAoHTAoTAoDAoRAoNHAoSHAoCAoTSAoGHAoHTTAoTHAoXAoFAoDHAoCHAoZA"),
    (0x16ac0, "aTANGSA DIGIT ZEROnONEnTWOoHREEnFOURoIVEnSIXoEVENnEIGHTnNINE"),
    (0x16ad0, "aBASSA VAH LETTER ENNIrKArSErFArMBErYIErGAHrDHIIrKPAHrJOrHWAHrWArZOrGBUrDOrCErUWUrTO"
      ++ "rBArVUrYEINrPArWADDArArOsOrUrEEsrI"),
    (0x16af0, "aBASSA VAH COMBINING HIGH TONEuLOW TONEuMID TONEuLOW-MID TONEuHIGH-LOW TONEkFULL STO"
      ++ "P"),
    (0x16b00, "aPAHAWH HMONG VOWEL KEEBwVuIBvVuAUBwVuUBvVuEBvVuAIBwVuOOBwVuAWBwVuUABwVuOBvVuIABwVuA"
      ++ "BvVuWBvVuAABwVnCONSONANT VAUxNTSAUxLAUxHAUxNLAUxRAUxNKAUxQHAUxYAUxHLAUxMAUxCHAUxNCHA"
      ++ "UxHNAUxPLHAUxNTHAUyAUxAUxXAUxCAUnMARK CIM TUBwSOwKESxHAVwSUAMwHOMwTAUMnSIGN VOS THOM"
      ++ "xSHAB CEEBsCIM CHEEMsVOS THIABwFEEMsXYEEM NTXIVyRHOyTOVyFAIB"),
    (0x16b40, "aPAHAWH HMONG SIGN VOS SEEVsMEEJ SUABsVOS NRUAsIB YAMsXAUSsCIM TSOV ROG"),
    (0x16b50, "aPAHAWH HMONG DIGIT ZEROtONEtTWOuHREEtFOURuIVEtSIXuEVENtEIGHTtNINE"),
    (0x16b5b, "aPAHAWH HMONG NUMBER TENSuHUNDREDSuTEN THOUSANDSuMILLIONSuHUNDRED MILLIONSuTEN BILLI"
      ++ "ONSvRILLIONS"),
    (0x16b63, "aPAHAWH HMONG SIGN VOS LUBsXYOOsHLIsTHIRD-STAGE HLIsZWJ THAJsHNUBsNQIGsXIABsNTUJsAVs"
      ++ "TXHEEJ CEEVsMEEJ TSEEBsTAUsLOSsMUSsCIM HAIS LUS NTOG NTOGwCUAM TSHOOJwTXWVα CHWVwPUB"
      ++ " DAWBwNRES TOS"),
    (0x16b7d, "aPAHAWH HMONG CLAN SIGN TSHEEJxYEEGxLISyAUJxXYOOJxKOOxHAWJxMUASxTHOJySABxPHABxKHABxH"
      ++ "AMxVAJxFAJxYAJxTSWBxKWMxVWJ"),
    (0x16e40, "aMEDEFAIDRIN CAPITAL LETTER MβSβVβWβATIUβZβKPβPβTβGβFβIβKβAβJβEβBβCβUβYUβLβQβHPβNYβX"
      ++ "βDβOEβNβRβOβAIβYmSMALL LETTER MzSzVzWzATIUzZzKPzPzTzGzFzIzKzAzJzEzBzCzUzYUzLzQzHPzNY"
      ++ "zXzDzOEzNzRzOzAIzY"),
    (0x16e80, "aMEDEFAIDRIN DIGIT ZEROsONEsTWOtHREEsFOURtIVEsSIXtEVENsEIGHTsNINEmNUMBER TENtELEVENt"
      ++ "TWELVEuHIRTEENtFOURTEENuIFTEENtSIXTEENuEVENTEENtEIGHTEENtNINETEENmDIGIT ONE ALTERNAT"
      ++ "E FORMsTWO ALTERNATE FORMtHREE ALTERNATE FORMmCOMMAmFULL STOPmSYMBOL AIVAmEXCLAMATIO"
      ++ "N OH"),
    (0x16f00, "aMIAO LETTER PAmBAmYI PAmPLAmMAnHAmARCHAIC MAmFAmVAnFAmTAmDAmYI TTAqAmTTAmDDAmNAnHAm"
      ++ "YI NNAmARCHAIC NAmNNAoHAmLAnYAnHAoYAmTLHAmDLHAmTLHYAmDLHYAmKAmGAmYI KAmQAnGAmNGAoHAm"
      ++ "ARCHAIC NGAmHAmXAmGHAoHAmTSSAmDZZAmNYAoHAmTSHAmDZHAmYI TSHApDZHAmREFORMED TSHAmSHAnS"
      ++ "AmZHAnSHAmTSAmDZAmYI TSAmSAmZAnSAnZAoSAmARCHAIC ZZA"),
    (0x16f40, "aMIAO LETTER ZZYAoSYAmWAmAHmHHAmBRImSYImDZYImTEnSEmRTE"),
    (0x16f4f, "aMIAO SIGN CONSONANT MODIFIER BARfLETTER NASALIZATIONfSIGN ASPIRATIONkREFORMED VOICI"
      ++ "NGtASPIRATIONfVOWEL SIGN ArArHHrNsGqOrOqWOrqErNsGqOEYqIrAsNtGrOrErIrUrNGqUrAsNtGrUrE"
      ++ "IrNGqYrIqAEsEqERRqROUNDED ERRqERqROUNDED ERqAIqEIqAUqOUqNrGqUOGqYUIqOGrERqVWqIGqEAqI"
      ++ "ONGqUI"),
    (0x16f8f, "aMIAO TONE RIGHTkTOP RIGHTkABOVEkBELOWfLETTER TONE-2r3r4r5r6r7r8mREFORMED TONE-1α2α4"
      ++ "α5α6α8"),
    (0x16fe0, "aTANGUT ITERATION MARKaNUSHU ITERATION MARKaOLD CHINESE HOOK MARKmITERATION MARKaKHI"
      ++ "TAN SMALL SCRIPT FILLER"),
    (0x16ff0, "aVIETNAMESE ALTERNATE READING MARK CAιNHAY"),
    (0x18800, "aTANGUT COMPONENT-001t2t3t4t5t6t7t8t9s10t1t2t3t4t5t6t7t8t9s20t1t2t3t4t5t6t7t8t9s30t1"
      ++ "t2t3t4t5t6t7t8t9s40t1t2t3t4t5t6t7t8t9s50t1t2t3t4t5t6t7t8t9s60t1t2t3t4"),
    (0x18840, "aTANGUT COMPONENT-065t6t7t8t9s70t1t2t3t4t5t6t7t8t9s80t1t2t3t4t5t6t7t8t9s90t1t2t3t4t5"
      ++ "t6t7t8t9r100t1t2t3t4t5t6t7t8t9s10t1t2t3t4t5t6t7t8t9s20t1t2t3t4t5t6t7t8"),
    (0x18880, "aTANGUT COMPONENT-129s30t1t2t3t4t5t6t7t8t9s40t1t2t3t4t5t6t7t8t9s50t1t2t3t4t5t6t7t8t9"
      ++ "s60t1t2t3t4t5t6t7t8t9s70t1t2t3t4t5t6t7t8t9s80t1t2t3t4t5t6t7t8t9s90t1t2"),
    (0x188c0, "aTANGUT COMPONENT-193t4t5t6t7t8t9r200t1t2t3t4t5t6t7t8t9s10t1t2t3t4t5t6t7t8t9s20t1t2t"
      ++ "3t4t5t6t7t8t9s30t1t2t3t4t5t6t7t8t9s40t1t2t3t4t5t6t7t8t9s50t1t2t3t4t5t6"),
    (0x18900, "aTANGUT COMPONENT-257t8t9s60t1t2t3t4t5t6t7t8t9s70t1t2t3t4t5t6t7t8t9s80t1t2t3t4t5t6t7"
      ++ "t8t9s90t1t2t3t4t5t6t7t8t9r300t1t2t3t4t5t6t7t8t9s10t1t2t3t4t5t6t7t8t9s20"),
    (0x18940, "aTANGUT COMPONENT-321t2t3t4t5t6t7t8t9s30t1t2t3t4t5t6t7t8t9s40t1t2t3t4t5t6t7t8t9s50t1"
      ++ "t2t3t4t5t6t7t8t9s60t1t2t3t4t5t6t7t8t9s70t1t2t3t4t5t6t7t8t9s80t1t2t3t4"),
    (0x18980, "aTANGUT COMPONENT-385t6t7t8t9s90t1t2t3t4t5t6t7t8t9r400t1t2t3t4t5t6t7t8t9s10t1t2t3t4t"
      ++ "5t6t7t8t9s20t1t2t3t4t5t6t7t8t9s30t1t2t3t4t5t6t7t8t9s40t1t2t3t4t5t6t7t8"),
    (0x189c0, "aTANGUT COMPONENT-449s50t1t2t3t4t5t6t7t8t9s60t1t2t3t4t5t6t7t8t9s70t1t2t3t4t5t6t7t8t9"
      ++ "s80t1t2t3t4t5t6t7t8t9s90t1t2t3t4t5t6t7t8t9r500t1t2t3t4t5t6t7t8t9s10t1t2"),
    (0x18a00, "aTANGUT COMPONENT-513t4t5t6t7t8t9s20t1t2t3t4t5t6t7t8t9s30t1t2t3t4t5t6t7t8t9s40t1t2t3"
      ++ "t4t5t6t7t8t9s50t1t2t3t4t5t6t7t8t9s60t1t2t3t4t5t6t7t8t9s70t1t2t3t4t5t6"),
    (0x18a40, "aTANGUT COMPONENT-577t8t9s80t1t2t3t4t5t6t7t8t9s90t1t2t3t4t5t6t7t8t9r600t1t2t3t4t5t6t"
      ++ "7t8t9s10t1t2t3t4t5t6t7t8t9s20t1t2t3t4t5t6t7t8t9s30t1t2t3t4t5t6t7t8t9s40"),
    (0x18a80, "aTANGUT COMPONENT-641t2t3t4t5t6t7t8t9s50t1t2t3t4t5t6t7t8t9s60t1t2t3t4t5t6t7t8t9s70t1"
      ++ "t2t3t4t5t6t7t8t9s80t1t2t3t4t5t6t7t8t9s90t1t2t3t4t5t6t7t8t9r700t1t2t3t4"),
    (0x18ac0, "aTANGUT COMPONENT-705t6t7t8t9s10t1t2t3t4t5t6t7t8t9s20t1t2t3t4t5t6t7t8t9s30t1t2t3t4t5"
      ++ "t6t7t8t9s40t1t2t3t4t5t6t7t8t9s50t1t2t3t4t5t6t7t8t9s60t1t2t3t4t5t6t7t8"),
    (0x1aff0, "aKATAKANA LETTER MINNAN TONE-2γ3γ4γ5"),
    (0x1aff5, "aKATAKANA LETTER MINNAN TONE-7γ8xNASALIZED TONE-1ν2ν3ν4ν5"),
    (0x1affd, "aKATAKANA LETTER MINNAN NASALIZED TONE-7ν8"),
    (0x1b000, "aKATAKANA LETTER ARCHAIC EaHIRAGANA LETTER ARCHAIC YEbENTAIGANA LETTER A-1u2u3uWOsI-"
      ++ "1u2u3u4sU-1u2u3u4u5sE-2u3u4u5u6sO-1u2u3sKA-1v2v3v4v5v6v7v8v9v10w1vKEtI-1v2v3v4v5v6v7"
      ++ "v8tU-1v2v3v4v5v6v7tE-1v2v3v4v5v6tO-1v2v3vKIsSA-1v2v3v4"),
    (0x1b040, "aHENTAIGANA LETTER SA-5v6v7v8tI-1v2v3v4v5v6tU-1v2v3v4v5v6v7v8tE-1v2v3v4v5tO-1v2v3v4v"
      ++ "5v6v7sTA-1v2v3v4tI-1v2v3v4v5v6v7tU-1v2v3v4vTOtE-1v2v3v4v5v6v7v8v9tO-1v2v3v4v5v6vRAsN"
      ++ "A-1v2"),
    (0x1b080, "aHENTAIGANA LETTER NA-3v4v5v6v7v8v9tI-1v2v3v4v5v6v7vTEtU-1v2v3tE-1v2v3v4v5v6vKOtO-1v"
      ++ "2v3v4v5sHA-1v2v3v4v5v6v7v8v9v10w1tI-1v2v3v4v5v6v7tU-1v2v3tE-1v2v3v4v5v6v7tO-1v2v3v4v"
      ++ "5v6"),
    (0x1b0c0, "aHENTAIGANA LETTER HO-7v8sMA-1v2v3v4v5v6v7tI-1v2v3v4v5v6v7tU-1v2v3v4tE-1v2vMAtO-1v2v"
      ++ "3v4v5v6sYA-1v2v3v4v5vYOtU-1v2v3v4tO-1v2v3v4v5v6sRA-1v2v3v4tI-1v2v3v4v5v6v7tU-1v2v3v4"
      ++ "v5v6tE-1v2"),
    (0x1b100, "aHENTAIGANA LETTER RE-3v4tO-1v2v3v4v5v6sWA-1v2v3v4v5tI-1v2v3v4v5tE-1v2v3v4tO-1v2v3v4"
      ++ "v5v6v7sN-MU-MO-1α2bIRAGANA LETTER ARCHAIC WUaKATAKANA LETTER ARCHAIC YIzEyWU"),
    (0x1b150, "aHIRAGANA LETTER SMALL WIxExO"),
    (0x1b164, "aKATAKANA LETTER SMALL WIxExOwN"),
    (0x1bc00, "aDUPLOYAN LETTER HqXqPqTqFqKqLqBqDqVqGqRqP NqD SqF NqK MqR SqTHqSLOAN DHqDHqKKqSLOAN"
      ++ " JqHLqLHqRHqMqNqJqSqM NqN MqJ MqS JqM WITH DOTqN WITH DOTqJ WITH DOTαS INSIDE AND AB"
      ++ "OVEqS WITH DOTα BELOWqM SqN SqJ SqS SqM N SqN M SqJ M SqS J SqJ S WITH DOTsNt SqS Tt"
      ++ " RsPt RqT SsR SqWrHr RqS NsMqK R SqG R SqS K"),
    (0x1bc40, "aDUPLOYAN LETTER S K RqAqSLOAN OWqOArqAOUqIqEqIEqSHORT IqUIqEEqSLOAN EHqROMANIAN IqS"
      ++ "LOAN EEqLONG IqYEqUqEUqXWqU NqLONG UqROMANIAN UqUHqSLOAN UqOOHrWrUqWArOrIrEIrOWqNASA"
      ++ "L UwOwIwAqPERNIN ANyMqSLOAN ENwANwONqVOCALIC M"),
    (0x1bc70, "aDUPLOYAN AFFIX LEFT HORIZONTAL SECANTpMID HORIZONTAL SECANTpRIGHT HORIZONTAL SECANT"
      ++ "pLOW VERTICAL SECANTpMID VERTICAL SECANTpHIGH VERTICAL SECANTpATTACHED SECANTyLEFT-T"
      ++ "O-RIGHT SECANTyTANGENTαILyE HOOKyI HOOKyTANGENT HOOK"),
    (0x1bc80, "aDUPLOYAN AFFIX HIGH ACUTEuTIGHT ACUTEuGRAVEuLONG GRAVEuDOTuCIRCLEuLINEuWAVEuVERTICA"
      ++ "L"),
    (0x1bc90, "aDUPLOYAN AFFIX LOW ACUTEtTIGHT ACUTEtGRAVEtLONG GRAVEtDOTtCIRCLEtLINEtWAVEtVERTICAL"
      ++ "tARROW"),
    (0x1bc9c, "aDUPLOYAN SIGN O WITH CROSSjTHICK LETTER SELECTORjDOUBLE MARKjPUNCTUATION CHINOOK FU"
      ++ "LL STOPaSHORTHAND FORMAT LETTER OVERLAPrCONTINUING OVERLAPrDOWN STEPrUP STEP"),
    (0x1cf00, "aZNAMENNY COMBINING MARK GORAZDO NIZKO S KRYZHEM ON LEFTyNIZKO S KRYZHEM ON LEFTyTSA"
      ++ "TA ON LEFTyGORAZDO NIZKO ON LEFTyNIZKO ON LEFTySREDNE ON LEFTyMALO POVYSHE ON LEFTyP"
      ++ "OVYSHE ON LEFTyVYSOKO ON LEFTyMALO POVYSHE S KHOKHLOM ON LEFTyPOVYSHE S KHOKHLOM ON "
      ++ "LEFTyVYSOKO S KHOKHLOM ON LEFTyGORAZDO NIZKO S KRYZHEM ON RIGHTyNIZKO S KRYZHEM ON R"
      ++ "IGHTyTSATA ON RIGHTyGORAZDO NIZKO ON RIGHTyNIZKO ON RIGHTySREDNE ON RIGHTyMALO POVYS"
      ++ "HE ON RIGHTyPOVYSHE ON RIGHTyVYSOKO ON RIGHTyMALO POVYSHE S KHOKHLOM ON RIGHTyPOVYSH"
      ++ "E S KHOKHLOM ON RIGHTyVYSOKO S KHOKHLOM ON RIGHTyTSATA S KRYZHEMyMALO POVYSHE S KRYZ"
      ++ "HEMySTRANNO MALO POVYSHEyPOVYSHE S KRYZHEMθTRANNOyVYSOKO S KRYZHEMyMALO POVYSHE STRA"
      ++ "NNOyGORAZDO VYSOKOyZELOyONyRAVNOyTIKHAYAyBORZAYAyUDARKAyPODVERTKAyLOMKAyKUPNAYAzACHK"
      ++ "AyZEVOKySKOBAyRAZSEKAyKRYZH ON LEFT"),
    (0x1cf30, "aZNAMENNY COMBINING TONAL RANGE MARK MRACHNOλSVETLOλTRESVETLOtMARK ZADERZHKAyDEMESTV"
      ++ "ENNY ZADERZHKAyOTSECHKAyPODCHASHIEι WITH VERTICAL STROKEyCHASHKAζ POLNAYAyOBLACHKOyS"
      ++ "OROCHYA NOZHKAyTOCHKAyDVOETOCHIEtATTACHING VERTICAL OMETtMARK CURVED OMETyKRYZHtLOWE"
      ++ "R TONAL RANGE INDICATORjPRIZNAK MODIFIER LEVEL-2η3αDIRECTION FLIPαKRYZHαROG"),
    (0x1cf50, "aZNAMENNY NEUME KRYUKu TIKHYpPARAKLITpDVA V CHELNUpKLYUCHpZANOZHEKpSTOPITSAx S OCHKO"
      ++ "MpPEREVODKAy NEPOSTOYANNAYApSTOPITSA WITH SOROCHYA NOZHKApCHELYUSTKApPALKApZAPYATAYA"
      ++ "pGOLUBCHIK BORZYzTIKHYzMRACHNYzSVETLYzTRESVETLYpVRAKHIYA PROSTAYAyMRACHNAYAySVETLAYA"
      ++ "yTRESVETLAYAyKLYUCHEVAYA PROSTAYAλMRACHNAYAλSVETLAYAλTRESVETLAYApDOUBLE ZAPYATAYApRE"
      ++ "VERSED CHELYUSTKApDERBITSApKHAMILOpCHASHKApPODCHASHIEpSKAMEYTSA MRACHNAYAzSVETLAYAzT"
      ++ "RESVETLAYAαIKHAYApDEMESTVENNY KLYUCHpSKAMEYTSA KLYUCHEVAYA SVETLAYAηNEPOSTOYANNAYAηV"
      ++ "AYA TIKHAYAzDVOECHELNAYA PROSTAYAνSVETLAYAνNEPOSTOYANNAYAνKLYUCHEVAYAqLOZHITIEy S ZA"
      ++ "PYATOYzZAKRYTOEzS KRYZHEMpKRYZHpROGpFITApKOBYLApZMEYTSApSTATYAv S ZAPYATOYyKRYZHEMyZ"
      ++ "APYATOY I KRYZHEMyKRYZHEM I ZAPYATOYwZAKRYTAYAζ S ZAPYATOYwS ROGOMyDVUMYA ZAPYATYMIy"
      ++ "ZAPYATOY I PODCHASHIEM"),
    (0x1cf90, "aZNAMENNY NEUME POLKULIZMYpSTATYA NEPOSTOYANNAYArRELA PROSTAYAwMRACHNOTIKHAYAwKRYZHE"
      ++ "VAYAwPOLUPOVODNAYAyVODNAYAwNEPOSTOYANNAYAwKLYUCHEPOVODNAYAδNEPOSTOYANNAYAwTIKHAYA PU"
      ++ "TNAYAwDVOECHELNAYAζOKRYZHEVAYAηPOVODNAYAζAYA KLYUCHEVAYAζOPOVODNAYA KLYUCHEVAYAwGROM"
      ++ "NAYA WITH SINGLE ZAPYATAYAαOPOVODNAYA WITH SINGLE ZAPYATAYAαNAYAαOPOVODNAYAλ WITH DO"
      ++ "UBLE ZAPYATAYAβKRYZHEVAYAμ POVODNAYApMECHIKv POVODNYwKLYUCHEVOYδPOVODNYδNEPOSTOYANNY"
      ++ "pSTRELA TRYASOGLASNAYAγPOVODNAYAγSTRELNAYApOSOKAu SVETLAYAvTRESVETLAYAvKRYUKOVAYA SV"
      ++ "ETLAYAwLYUCHEVAYA SVETLAYAθNEPOSTOYANNAYApSTRELA KRYUKOVAYAη POVODNAYAθGROMNAYA WITH"
      ++ " SINGLE ZAPYATAYAμOPOVODNAYA WITH SINGLE ZAPYATAYAμNAYAμOPOVODNAYAχ WITH DOUBLE ZAPY"
      ++ "ATAYAνKRYZHEVAYAψ POVODNAYAθTRYASKApKUFISMApOBLAKOpDUDApNEMKApPAUK")
  ]

end ApiBridge.Text
