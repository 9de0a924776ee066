import BrowserShell.Unicode.Table

/-!
# Properties that a character has or lacks

The code points of every such property. `Property.named?` takes a property's short or long name,
in lower case and without separators; the properties that other modules use have names of their
own.
-/

namespace BrowserShell.Unicode.Property

/-- The code points that act as letters. -/
def alphabetic : String :=
  (String.join [
    "cNZGZbVAKAEAFWBbEBrPELOEHABAdIAbDRBBCDBAGABCBABTBdEBfIIgJBbLCAGbObNNBABBBBBAIbAEDbDKFcDBG",
    "OdXBHEHECKCCAQbVNdWYbGJBEAFXCSTYHKFXBGHAIbPKLDGGcXBPBCEONSBHCBCVBGBADDDHCBCBBAIAEBBEMBKAE",
    "CBFEBCVBGBBBBBBEEEBCBEAHDBARFLCBIBCBVBGBBBEDIBCBBDAPDVDECBHCBCVBGBBBEDHCBCBJBEBBENAQBBFDC",
    "BDDBBABBDBDCDLEEDCBCDAGAbOMBCBWBPDHBCBCIBBCBBCDbCDBHBCBWBJBEDHBCBCIBFCBDNCMMBCBbOCHBCBCBA",
    "FDHEWFBCBRDXBIBACGIFBABHSBNcFFGGAbZBBABEBXBABSBCCEBAGAODbGAcLHBbJESEPBbJcPcCBACEQcLKDCbLB",
    "AFACbQBmUBDCGBABDCbOBDCbGBDCGBABDCOBcEBDCcObLPQdHCFDxVCQBZFcWDKHTLUMTMMBCBBMbZCSOAEAcPdKH",
    "bQFcRKbEBLEIXbDCELbREZcCbBEcKCTbYAXBLCbXbZBOBHbZbPCDKbRBKOcCWCKbJCKFbQCCbPDBFBBDAFhJTbHLk",
    "RCFCbLCFCHBABABABbECcABGBADCBGDDCFEMFCBGeMANAQMdXAEACJBADEGABABABDBKCDFEEARbObfHbZcrUiUGD",
    "DBMbLBAFACcDHAQWJGBGBGBGBGBGBGBGBbFbVAsBCZIHECEEdHGCBdLBDFbQBdPRbFbWPtSjtNcMbguEcPbTCkIDP",
    "KBUbUFHDeIbNICdYCdDUUBbGYbZMcPBAbSFDABCKbGFbINbCDbYBLPAQPKEBcCJNSWDcQBABAYCCPCDLFCFCFJGBG",
    "BbQBNGeSVqnRMWEbWmnCoBCeBbMGMEFLBMBEBABBBBBeDbHnYScLCcBbOLeMEBfEbKZGZLdKDFCFCFCCbJLBZBSBB",
    "BOCNbIeScRcAkHbCDbWbVbFNbDFbQFbDCbJEHBEbQgBSbJEbJEbNIbZMKBOBGBBBKBOBGBBDbZMlYJVKHYFBbPBIc",
    "RFCABbRBBDACWKWJbEcNSBBKVKZGZbMcDGBcMDBBFHBCBbCbQbCDbCbJHBbBbBcBKVKSNReGcUcDbYNbYNbNbIbBD",
    "AFWjQbPBBDBQFbYCDbCKAIVbQRbUUbBWJcRbREKcEJANYXbYRDIbIDAJcLBDJBKABAbJRBbHCAGDcKGBABDBOBJHc",
    "EXDBHCBCVBGBBBEDHCBCBDAGAFGbCJBACABbLBJBACABDBBDABAbScNBCBDUCbEcNCBBAhCcBCGZFbIcKBADAcHcB",
    "CAcTbACNVGhDcEdZcLbFHCACHBBBbDBBCBCDdPHCbTCFBABBbBbYCJRcTFAScUdZHdKbGbFIBbSBGBAbXbDCVBNcV",
    "GBBBbRDABBBCBACBYFBBBbKBBBDBAXbRkAWJQBbODCeHAdBbjLdYeGRhNdxKdSPbpFRFZfxQFwKkdDbUcpDvWHbER",
    "dARbDSbVQDbFUFSqQbSiDcLbGYCYbScWEcEHQcMBBAMGJkxXbPbFdTeKmwRDBGBBBlEPAbDCCAODIpFdkUeCFMDIH",
    "JEAiwFdGBcSBBCACBCDBLBABGBcMBDCHBGBbBBDBEBADGBnBCYBYBbEBYBbEBYBbEBYBbEBYBHcsYbEGFiFGBQCGB",
    "BBEFcJbHAeIbSKGQAmJbDSbRsQbBiUbDCAhZbEBVIBiQGBDBBBOBhOcHcPDADAbuIDBbABBBACABJBDBABAGAEABA",
    "BABCBBBACABABABABABBBACDBGBDBDBABJBQFCBEBQyEZGZGZfmKclfBbGgmNCioBClbKPxXdqWuVcfYhhYFmoN"])

/-- The blanks. -/
def whiteSpace : String :=
  "JESAdWAbAAihJAdpNKbDBFAbVAfxWA"

/-- The code points that attach to the character before them. -/
def graphemeExtend : String :=
  (String.join [
    "bdOeHkPGkDbSBABBBBBAcUKbWUQAdXGCFCBBDbJAbEbAdNKcGIJAYDBIBCBEbRCcHIbQXBbFcDABAEHEADGKBbDAc",
    "GABACDIAJAKBbAACBcFAEBEBCCDAbEBDALBcFAEEBBEAUBWFBAcGABBBDIAHCKBbEAcHABAMAJAbOADAcDABCFCBD",
    "HBLBbDAcGACBBADCBDHBLBbCBcFBBACDIAJAKBbDAcUAEACCBAIAdDACGMHdUACILGcVBbBABABAcDNBEBBFKBbJJ",
    "AdYDBFBBCBZBECQDNACBGAPAbbBCbkKDbCCbDBbEBcMBBGIACKJAbTCBAeNBbIAeOCEBJAGCiLBCAcGABGBABACHG",
    "JCAbWbTCLUDbWJECbMIMBbGDCFcEABBDABEcEHCBfWCBMBGEAGADBhQcLuEAhNbGeoCCfLAdSbFvIFeBBbsqEDBJb",
    "GBdCBkMADAEAZBFAfVBbARNAbMHZKBAbSCbWACDCBCAbKAcPFCBCBMAIAbVAbZABCCBFBBAbQBIAjEACAEAbdzSAb",
    "cJPQPoCBxHAiSAfTEcmGCBBFDbOCEAgJBwBDcNEmFBcZFcSKbXDeTAcCObPACBKCbXDCBHAcJCbKEBHcKAMBcAIBA",
    "IDCAdRCCDGACAgBADHVBcFBBABAMAJAOGDEcPACFBACABCECBAOBdHHCCBAXAdDACFBACABBBBjBACDGBBBbBBdHH",
    "CABBeCABACHdXABACDBEjZIBBjLAKDEAfODCBEAbGJbOFCDIAJFCCbUMBBhQABCBAhTGBFBAdEVCGBBBBeSFDABBB",
    "GBAcUBDABAnJBLBcAEFCXAhxTAGOqyYLDCdsAEcHGboIAcLDdDALBbdaXBgyZbTCWuWEDFIHCGbEDfSCcyDcCEbXI",
    "AOAWEBOcaIGBQCGBBBEdWAgEGoLAcJDtODjUBjJACAHBFAsGGeFGbtcaFdReYjF"])

/-- The two controls of cursive joining. -/
def joinControl : String :=
  "mdOB"

/-- The table of the properties: names and code points. -/
def table : List (List String × String) := [
  (["ahex", "asciihexdigit"],
    "bWJHFbAF"),
  (["alpha", "alphabetic"], alphabetic),
  (["bidic", "bidicontrol"],
    "ciEAjvLBbAEcDD"),
  (["ci", "caseignorable"],
    (String.join [
      "bNAGALAbJABAcTAEABAEACBtJhJEBEAJBBAjRGhZAFAbXbSBABBBBBAbSALFKKBAbJAKUQAdXHBJBDbHABAbEbA",
      "dNKcGKEACAYXbRCbSAHBFIbPcFcDABAEHEADGKBNAPAcGAEDIAUBbAACBcFAEBEBCCDAbEBDALBcFAEEBBEAUBW",
      "FBAcGACABDIAHBLBbEAcJAMAbYADAcDABCFCBDHBLBbDAcGACAGAFBUBbCBcFBEDIAUBbDAcUAHCBAdMACGLIdU",
      "ACIJABGcVBbBABABAcDNBEBBFKBbJJAdYDBFBBCBZBECQDNACBGAPAdQAxKCbkKCbDBbEBbEBcMBBGIACKDAFAb",
      "TEbZAcNBbIAeOCEBJAGCiLBCAcGABGBABACHGJCAbNAIbTCLUDbWABEBAFAbOIMBbGDCBBCcEABBDABCcGHCBcM",
      "FdECBMBGEAGADBbYcKNAbIdWrDABCLCNCNCNBMEIBKACACEbXEBJBANAQMbZbGejRBeJCeVAPAdSbFbVAsBAbKD",
      "DEFAdPFdPCbqbUAbwCFkKAdUDBJBAbCDdCBObHdAAXCdYDDBIADAEAZBFAfVBbARNAbMHZKbUCbWACDCBRAVBcO",
      "FCBCBMAIAbJALAbZABCCBFBBAbBAOBFBBAdWEJCeRACAEAbdzSAfRQwBPDAMPbIACAgNAHAGALAbJABAbVAbTBc",
      "PAVCtTAiSAfTEbnPFBbPBIwKCBBFDbOCEAgJBwBDbMAbAEBAmDBYAcAFcSKbXDeTAcCObPACBKCbXDCBCAEAKAb",
      "YCbKEBHcKAMBcAIKDCAdRCCABBGACAgBADHVBcFBDAbLGDEcSFNABABAOBdHHCCBAXAdGFBAEBBBjEDGBBBbBBd",
      "HHCABBeCABACFBAdXABACDBEjZIBBjWBBAEAfODCBEAbGJbOFCDIAJFCCbUMBBhQABCBAhTGBFBAdEVCGBBBBeS",
      "FDABBBGBAcUBDABAcNAkVBLBcAEFABAXAhxDQGOqyYLDCdsAEcHGJDtOCbOBsOAcLQcMBBBNBygADBGBBeuGBBD",
      "gyUbTCWuYCJPCGbEDfSCcyDcCEbXIAOAWEBOcaIGBQCGBBBEFcJbHAgENoEAcJDtNEjUBjJACAHBFAJArWGeFHe",
      "bFEbsxxPAbEdReYjF"])),
  (["cased"],
    (String.join [
      "cNZGZbVAKAEAFWBbEBhMBDEhZCbIHBbEEdSAbQDCBCDBAGABCBABTBdEBfIIgJBbLJbOefFbLBAFACbQBDzWdHC",
      "FdfUKFbQCCcMhJcMkRCFCbLCFCHBABABABbECcABGBADCBGDDCFEMFCBGeMANAQMdXAEACJBADEGABABABDBFEA",
      "CDFEEARbFDBbfLbZcrUiUGDDBMbLBAFAbtwCbTSbDfCdXDDBcYUFBCbfPbQBNGdBbeaIGMEbnTZGZbtTdBdSbJE",
      "bJeMKBOBGBBBKBOBGBBrJACCBbPBIbuZbYNbYdPVKVefIcLbgiQcLbGYCYbmiEdGBcSBBCACBCDBLBABGBcMBDC",
      "HBGBbBBDBEBADGBnBCYBYBbEBYBbEBYBbEBYBbEBYBHcsYJBTGFkBcJdgKcPdaAZGZGZ"])),
  (["cwcf", "changeswhencasefolded"],
    (String.join [
      "cNZdMAKWBHbGABABABABABABABABABABABABABABABABABABABABABABABABABABABACABABABABABABABABBBA",
      "BABABABABABABABABABABABABABABABABABABABABABBBABABABBBABBBCCDBBBCDBBBBABABBBACABBBCBABBD",
      "AHBBBBBBABABABABABABABACABABABABABABABABACBBABCBABABABABABABABABABABABABABABABABABABABA",
      "BABABABABABABABABAHBBBCABDBABABABAjMAbQABADAIAGABCBABBBQBIWAMCDBBABABABABABABABABABABAB",
      "ABBCBBABBCbYbWABABABABABABABABABABABABABABABABAJABABABABABABABABABABABABABABABABABABABA",
      "BABABABABABABABBBABABABABABACABABABABABABABABABABABABABABABABABABABABABABABABABABABABAB",
      "ABABABABABABABABABABABABABABABABABABACbLbWAefGbLBAFAbfEFdfUJGbQCCmIABABABABABABABABABAB",
      "ABABABABABABABABABABABABABABABABABABABABABABABABABABABABABABABABABABABABABABABABABABABA",
      "BABABABABABABABABABABABABABABABABABABABABAFBCABABABABABABABABABABABABABABABABABABABABAB",
      "ABABABABABABABABABABABABABABABABABABABABABABABABABABABAJHIFKHIHIFLABABABAIHQbVCCCFFCCFL",
      "DMEFCCFlLADBGAbTPTAbfMZcsUbVbWABCCABABABDBACAICBABABABABABABABABABABABABABABABABABABABA",
      "BABABABABABABABABABABABABABABABABABABABABABABABABABABABABAIABAEAbtyJABABABABABABABABABA",
      "BABABABABABABABABABABABABATABABABABABABABABABABABABABAfFABABABABABABADABABABABABABABABA",
      "BABABABABABABABABABABABABABABABABABABABABABAKABABBBABABABAEABACABADABABABABABABABABABAB",
      "EBEBABABABABABABABDBABBBABABABABABABABAYAbiGdBbeaIGMEbnTZbuZbNfGbJgAKBOBGBBcqCbYgBVegOb",
      "FbgjWbFcMYbuhZbH"])),
  (["cwcm", "changeswhencasemapped"],
    (String.join [
      "cNZGZcGAKWBbEBcLBdFBbBCNCBBAEdOBRGbABBBABBDBBDBECABBCAHACABBDFFAKBgKAbQDCBDCBAGABCBABTB",
      "bUDbGBEBfCIgJBbLKbMefGbLBAFACbQCCzWdHCFdfUKFbQCChDADAQAeJfZCABeNCFCbLCFCHBABABABbECcABG",
      "BADCBGDDCFEMFCBGlLADBGAbBARbFDBbfLbZcrUeIBBBBHdXHDDBMbLBAFAbtwCbTSbBfENCcJJODCCEBYBbSYB",
      "bhCAbCdBbeaIGMEbnTZGZbtTdBdSbJEbJeMKBOBGBBBKBOBGBBcoPbYNbYdPVKVefIcLbgiQcLbGYCYbugYcP"])),
  (["cwl", "changeswhenlowercased"],
    (String.join [
      "cNZdXWBGbHABABABABABABABABABABABABABABABABABABABABABABABABABABABACABABABABABABABACABABA",
      "BABABABABABABABABABABABABABABABABABABABABBBABADBBABBBCCDBBBCDBBBBABABBBACABBBCBABBDAHBB",
      "BBBBABABABABABABABACABABABABABABABABACBBABCBABABABABABABABABABABABABABABABABABABABABABA",
      "BABABABABABABAHBBBCABDBABABABAlDABADAIAGABCBABBBQBIbJAIABABABABABABABABABABABAFACABBCbY",
      "bWABABABABABABABABABABABABABABABABAJABABABABABABABABABABABABABABABABABABABABABABABABABA",
      "BABBBABABABABABACABABABABABABABABABABABABABABABABABABABABABABABABABABABABABABABABABABAB",
      "ABABABABABABABABABABABABACbLehDbLBAFAbbUdHdgLAGbQCCmIABABABABABABABABABABABABABABABABAB",
      "ABABABABABABABABABABABABABABABABABABABABABABABABABABABABABABABABABABABABABABABABABABABA",
      "BABABABABABABABABABABABABABAJABABABABABABABABABABABABABABABABABABABABABABABABABABABABAB",
      "ABABABABABABABABABABABABABABABABABABABAJHIFKHIHIFLABABABAIHYHIHIHIELELDMELElLADBGAbTPTA",
      "bfMZcsUbVbWABCCABABABDBACAICBABABABABABABABABABABABABABABABABABABABABABABABABABABABABAB",
      "ABABABABABABABABABABABABABABABABABABABAIABAEAbtyJABABABABABABABABABABABABABABABABABABAB",
      "ABABABATABABABABABABABABABABABABABAfFABABABABABABADABABABABABABABABABABABABABABABABABAB",
      "ABABABABABABABABABABABABAKABABBBABABABAEABACABADABABABABABABABABABABEBEBABABABABABABABD",
      "BABBBABABABABABABABAYAbhaHZbuZbNfGbJgAKBOBGBBcqCbYgBVegObFbgjWbFcMYbuhZbH"])),
  (["cwt", "changeswhentitlecased"],
    (String.join [
      "dTZcGAbPXBHBABABABABABABABABABABABABABABABABABABABABABABABABABABABACABABABABABABABBBABA",
      "BABABABABABABABABABABABABABABABABABABABABACABABCCABACADAFACADCCACABABACAEACADABACADABAE",
      "ABBBBBABABABABABABABABBBABABABABABABABABCBABADABABABABABABABABABABABABABABABABABABABADA",
      "BABABABABABABABAIACBBAEABABABABFBBBABBDBBDBECABBCAHACABBDFFAKBgKAbRABADADCSAbBbIBBDCBAB",
      "ABABABABABABABABABABEBACACAcAbVBABABABABABABABABABABABABABABABABAJABABABABABABABABABABA",
      "BABABABABABABABABABABABABABABABACABABABABABABBBABABABABABABABABABABABABABABABABABABABAB",
      "ABABABABABABABABABABABABABABABABABABABABABABABABABABABAbXbMfmEFdfUIBAjEADAQAeKABABABABA",
      "BABABABABABABABABABABABABABABABABABABABABABABABABABABABABABABABABABABABABABABABABABABAB",
      "ABABABABABABABABABABABABABABABABABABABABABABABABABABGFABABABABABABABABABABABABABABABABA",
      "BABABABABABABABABABABABABABABABABABABABABABABABABABABABABABABIIFKHIHIFKHIHINCHIHIHIEBBG",
      "ADCBBIDCBIHKCBBnEAbHPEAbgLZctQbVBADBBABABAGACAKABABABABABABABABABABABABABABABABABABABAB",
      "ABABABABABABABABABABABABABABABABABABABABABABABABABABABABABAIABAEAMbLBAFAbtwDABABABABABA",
      "BABABABABABABABABABABABABABABABABATABABABABABABABABABABABABABAfFABABABABABABADABABABABA",
      "BABABABABABABABABABABABABABABABABABABABABABABABABABAKABACABABABABAEAEABBCABABABABABABAB",
      "ABABALABABABABABABABAEABACABABABABABABABAbAAbhCAbCdBbeaIGMEboZZbvHbNfGbJfZKBOBGBBcrBbYe",
      "VVegObFbgjWbFcHYbuiGbH"])),
  (["cwu", "changeswhenuppercased"],
    (String.join [
      "dTZcGAbPXBHBABABABABABABABABABABABABABABABABABABABABABABABABABABABACABABABABABABABBBABA",
      "BABABABABABABABABABABABABABABABABABABABABACABABCCABACADAFACADCCACABABACAEACADABACADABAF",
      "BBBBBBABABABABABABABBBABABABABABABABABBBBBADABABABABABABABABABABABABABABABABABABABADABA",
      "BABABABABABABAIACBBAEABABABABFBBBABBDBBDBECABBCAHACABBDFFAKBgKAbRABADADCSAbBbIBBDCBABAB",
      "ABABABABABABABABABEBACACAcAbVBABABABABABABABABABABABABABABABABAJABABABABABABABABABABABA",
      "BABABABABABABABABABABABABABABACABABABABABABBBABABABABABABABABABABABABABABABABABABABABAB",
      "ABABABABABABABABABABABABABABABABABABABABABABABABABABAbXbMehCbQCCbdGFdfUIBAjEADAQAeKABAB",
      "ABABABABABABABABABABABABABABABABABABABABABABABABABABABABABABABABABABABABABABABABABABABA",
      "BABABABABABABABABABABABABABABABABABABABABABABABABABABABABGFABABABABABABABABABABABABABAB",
      "ABABABABABABABABABABABABABABABABABABABABABABABABABABABABABABABABABIIFKHIHIFKHIHINCcABBE",
      "ABADCBBEADDCBIHKCBBEAmZAbHPEAbgLZctQbVBADBBABABAGACAKABABABABABABABABABABABABABABABABAB",
      "ABABABABABABABABABABABABABABABABABABABABABABABABABABABABABABABABAIABAEAMbLBAFAbtwDABABA",
      "BABABABABABABABABABABABABABABABABABABABATABABABABABABABABABABABABABAfFABABABABABABADABA",
      "BABABABABABABABABABABABABABABABABABABABABABABABABABABABABAKABACABABABABAEAEABBCABABABAB",
      "ABABABABABALABABABABABABABAEABACABABABABABABABAbAAbhCAbCdBbeaIGMEboZZbvHbNfGbJfZKBOBGBB",
      "crBbYeVVegObFbgjWbFcHYbuiGbH"])),
  (["dash"],
    "bTAcaUAbZAfkJAbnPAdbDFcJAbNAPApAAeoIACAbFBEAbCArEATAeHAczwABbLAKAgNAflOAmGA"),
  (["di", "defaultignorablecodepoint"],
    "gRAzXAbbOAegWBckHBdHEdaPEbAEbXPgkYAczmPPjFAgEAdBIctlNDhwXHbtkzLgbN"),
  (["dep", "deprecated"],
    "mRAbyVAdkTABAdcJBdiJFbaVBbzryKA"),
  (["dia", "diacritic"],
    (String.join [
      "dQABAcTAGAEACBtJgCBHFFRBEAJBjTEiBAcDbSBABBBBBAfBHEBfEBEBDCcPbAdNKcGKbIBeWHbPJQbBcJAQADD",
      "bCAcWAQAeGAQAeGAQAbVCcIAQAHAePAeGAQAeGAQAeFBQAeUAeHAMFBAeDANEcXBbBABABAEBcOCBBcKAeIABBb",
      "OBEEZGBAKBbbDCbkMBbEAfSKJAnJClGAUHCAbWOCKDOCLcUAPAbMIcCBcGALBcOBcMFdEYEAGACCbYcKbWbJFLb",
      "LKrDABCLCNCNCNBexKCmFAtMFeBDdRAbsmKAMBBAbCBdEBObHdYCdYAGBMAbLAfVAbBRcFDbKAdRAMAbKAfTCcN",
      "DbZAdWEJCeYBbdzSAbdPPkKABAbVAbTBcPAbdKAbtNFBbPBIyNCEAgJBvZFbMAbAEpGACCcSKbXDhKAbPAcUBeQ",
      "BcKAcYAJCeABgWBdCBQAYGDEdLCBBNBdRADAeTBjRBeWAeOBeLAkJBjYBEAgAAdFASAdDAqFAjYABBdDAcNAnVB",
      "XAhyAOqzPAdsAEcHGvSBvAQdCBygCDBGBBltHbTCWuYCDFIHCGbEDfmWcJhMGoLAcJDbdMBbcIGeFCBC"])),
  (["emoji"],
    (String.join [
      "bJAGAFJeHAEAlyRAMAiIAWAdMFPBoDBMAgKAZKEChRAiXBKAJAcGDBEJACACBCAEACABBCADADBICFABAFLLBCA",
      "BBBASACBSFBABBDBFACBEBLBFBCAFBBABBUBFFBDCAEACACFBACABABAGADAGAKBPACAEABAECBALBbWCJAOAOA",
      "oIBrVCTBbZAEAbvUAMAxDABAgmrQAhUAgEBMBOACJcXZBBXAUACIVBgSbHCeHCBBCCdECCBkCBcKLFBXHBCHMAC",
      "DCAEBNBCAIBJAFCMCICCABAEAGADAGdHbWcRFHCDDJDABBDACJiTLEAkXbUBJBhCeIMDKDcEBAEPCLEJ"])),
  (["ecomp", "emojicomponent"],
    "bJAGAFJmbJAiFAdftRAdoiWZtNEceADbsvuQdR"),
  (["emod", "emojimodifier"],
    "hhiXE"),
  (["ebase", "emojimodifierbase"],
    (String.join [
      "olHAiLAQDgsjVAcICCACCeNBCKVSDAECBCHABAYAhTBEAVAEBgSCDEdFAQCJALAwDACAIHGAJJCCcEAcJBBBBAR",
      "CBMiVCbQI"])),
  (["epres", "emojipresentation"],
    (String.join [
      "nhQBhXDDACAuBBVBbYLbRATANAIBRBFBIAFAVAHBBAEACAHAEBbCAbJABAECBAcJCYAOAbhBBbZAEAgplEAhUAh",
      "IACJcXZBAYAUACEBCVBgSbGMIBcRBVMbQEEMQDADcSBABhECcKNDBXSAbABNAdIdGbWcRGADCCDDDLBHIiTLEAk",
      "XbUBJBhCeIMDKDcEBAEPCLEJ"])),
  (["extpict", "extendedpictographic"],
    (String.join [
      "gNAEAlyRAMAiIAWAdMFPBoDBMAgKAZKEChRAiXBKAJAcGDBEJACACBCAEACABBCADADBICFABAFLLBCABBBASAC",
      "BSFBABBDBFACBEBLBFBCAFBBABBUBFFBDCAEACACFBACABABAGADAGAKBPACAEABAECBALBbWCJAOAOAoIBrVCT",
      "BbZAEAbvUAMAxDABAgmrQAbNDdWLPBPAOBbLJeIBMBOACJTcDbBOKAUACIBDJWGhFCeHCBBCCdECCBDFjTBcKLF",
      "BXHBCHMACDCAEBNBCAIBJAFCMCICCABAEAGADAGdHbWcRFHCQDABFCMiKbLMDcEHKFbOHbEBMDCNJbMMbUBJBhC",
      "dKHOfPjWbnH"])),
  (["ext", "extender"],
    (String.join [
      "hBAuQBbhUAqZAyGAfHAdLAbcYAeXAdnFAcEAxNApIAcQAhkJAbREdZBdPCbqbUAcgSAblAAWAfHAeEAVBbfzVAd",
      "bKBcfBAbBAEAbvBAlHAeMBtECbvJAbgAAbdiEBbtKBBAOBbqxKBbuFAbgUC"])),
  (["grbase", "graphemebase"],
    (String.join [
      "bGdQbHMBwVeIHCFEGBABTBiPHgJBbLCbXCCbUABACACAJbAEFRJLABbTVPBdWIAGBCAEbFCABbDbDdKLAObQJGD",
      "XEAJADAHOBYFABKFbFQbPcFcCBABDIDBCHJCbCBBBHCBCVBGBADDDABBGBCBBANBBCEXFABFEBCVBGBBBBBBECY",
      "DBAHJCCBAMABIBCBVBGBBBEDDIABBDAPBELHAIBBHCBCVBGBBBEDACAGBCBPBBCERLABFDCBDDBBABBDBDCDLFA",
      "BBDCBCDAVUGCBHBCBWBPDADDTCBBCBEJHJBKBCBWBJBEDBCABBXCBBEJBCOKBCBbOCABBFCBCBBECBJEZCBBRDX",
      "BIBACGJBGGHJCCMbVBBLHIMbLBBABEBXBABJBBJACEBAJJCDbGXCbABABABNBbJSAFACEbXHBFBMbLbSEAGACBC",
      "YCDDPEMBBCFBOBbNBAFACoMBDCGBABDCbOBDCbGBDCGBABDCOBcEBDCcOFbCDZGdHCFCzSDdKHRNSDBJROMBCPb",
      "ZCAHHBBLIDJGJGKFJGdKHECbHBAFcRKbEEDCCEBBFHADbPCELbREZGKDcECBDcDBAJABBIFNJGJGNdIbVKDDHBb",
      "CJLCbFEBGcDBACCBANbVIBFODcJFbQCKLANAHDBFBCCAFhJcMkRCFCbLCFCHBABABABbECcABOBNCFBSCCBIBKF",
      "XHbWQBCbABMDbHcKfJEzPWKVcrRCoMDBFbSBAFACcDHBPWJGBGBGBGBGBGBGBGbHdPbIZBdKMiFbAcFGPBdHEdW",
      "FbQBdPBdHJbVBbriQDcCJnJUbUEAKbFCdBCFIiMUQBCBDBYCEEJGcDIcPKLYMBbLIYLAMbDGbVBBEBCBBMBKEGB",
      "YBbOGBCBLCBHBACJCbFBbYBADBCECABAYQCHLFCFCFJGBGBcHEeMBBBDDJGqnRMWEbWmnCoBCeBbMGMEFABXBEB",
      "ABBBBByZbGPQJWbIBSBDEEBfEEgACbEDFCFCFCCDGBGNBCLBZBSBBBOCNbIeSFCEbSDdJBMDAbVbSfBbCDbWQbA",
      "EbJJbDFbLKbDBbKENbQgBCJGbJEbJEbNIbZLLBOBGBBBKBOBGBBDbZMlYJVKHYFBbPBIcRFCABbRBBDACWBcTII",
      "bWSBBFbGDbAFbAbMcDETCbUPDBCBbCKIHIHcLbGbKGLJcBDbCCbAFZHDMGdCcUcDbYNbYHbPMJGbLIXIBiAbEBb",
      "PDACBQFIIbNbNIVLIWREDbMbBUWJABcBPGEbDBBCAMbWEBCBBDOYHJJbJFAJRIbIBCLbZJABHEBBPBTLRBbBDBE",
      "FBBcLGBABDBOBKGbUBCNJIBBHCBCVBGBBBEDABABDCBCBDAMGbCJBACABbLBABBPABBDABCBBbNcDIBDABUBABC",
      "bEbVBBGABBBACACDIJgKbUBBGDCACbAbKbYIBBACDLJGMTbQBABBIBGJGTbCbADABBEAJWhDbUJACAdWdEMHCAC",
      "HBBBXBEBBGDBCJJcSHCbPIDBDbBAKbNGBEHJAGBDbTNACINcUHJdJADABAdKbHOJGIBbLOABFKbCDbFZAHACAcX",
      "GBBBbLVAJJGFBBBbKEBBABAHJGbREJjMSCDJOBbJIBDWdIAPbXNbjMdYeGBELhNdxKdUNbpFRFZfxQFwKkdDbDM",
      "CDJcoSvWHbEBJEdCBJGbDHAKbVHOKJBGBUFSqQcFhQdMFYCYbScWFcDLMcMDOEJkxXbPbFdTeKmwRDBGBBBlEPA",
      "bDCCAODIpFdkUeCFMDIHJCACAfvKjSDqTGWPQdReLcIjLKbMCcHFCWBHbDEcIVcNDAeSTMTMdIJYfFdGBcSBBCA",
      "CBCDBLBABGBcMBDCHBGBbBBDBEBADGBnBClFCvPcDDbYHBNBGbrWbEGFkBcJfQbSKGCJEBmIbDSbREJFArWbBEJ",
      "iGbDCKEAhKbEBCBBBGCEJBiQGBDBBBOBhOCIbWcPHAEJEBbeFcPcYcIhMDBbABBBACABJBDBABAGAEABABABCBB",
      "BACABABABABABBBACDBGBDBDBABJBQFCBEBQcABkKbREdVMOCOBOBbKKgRcEbCNbREIHBOFfYblWDQDMDiJGLEA",
      "PLEcDIJGbNIbDCLEBOIbNnFINCMDKDcEBAEPCLEJHfQBdYbnPclfBbGgmNCioBClbKPxXdqWuVcfYhhYFmoN"])),
  (["grext", "graphemeextend"], graphemeExtend),
  (["hex", "hexdigit"],
    "bWJHFbAFdslLJHFbAF"),
  (["idsb", "idsbinaryoperator"],
    "seABCJtDA"),
  (["idst", "idstrinaryoperator"],
    "seCB"),
  (["idc", "idcontinue"],
    (String.join [
      "bWJHZEABZbVAKABACAFWBbEBrPELOEHABAReMBBCDBAGEBABTBdEBfIBECgJBbLCAGbOIbSBABBBBBAIbAEDbDK",
      "FcVEdXBHCJBSCAQcGCdWOcBEACACbTSbBEKFXBGHcWBeYCJBSBHCBCVBGBADDCICBCDIAEBBECLKABACCBFEBCV",
      "BGBBBBBBCABEEBCCDAHDBAHPLCBIBCBVBGBBBECJBCBCCAPDCJJGBCBHCBCVBGBBBECICBCCHCEBBECJBAQBBFD",
      "CBDDBBABBDBDCDLEEDCBDCAGAOJQMBCBWBPCIBCBDHBBCBBCDCJQDBHBCBWBJBECIBCBDHBFCBDCJBCMMBCBbYB",
      "CBEFDHECJKFBCBRDXBIBACGDAEFBABHGJCBNcFFOBJbNBBABEBXBABWCEBABGBJCDbGAXBGJLABABAEJBbJETBR",
      "BbJJAcFcVGcZCbLBAFACbQBmUBDCGBABDCbOBDCbGBDCGBABDCOBcEBDCcOCCJIOPQdHCFDxVCQBZFcWDKHVJVL",
      "TMMBCBBMdFDAEBCJbHCBKGdKHbQFcRKbEBLELKbNCELbREZGKbLbBEcKBbCCKGJNAINBbECLUcYDJRIMeLMcDIJ",
      "DbWCKFbQCCQCBbMFuNCFCbLCFCHBABABABbECcABGBADCBGDDCFEMFCBGPBbXBTAbCANAQMbZMEADLRAEACJBAC",
      "FGABABABPCDFEEARbOdzBiUGIMbLBAFACcDHAPXJGBGBGBGBGBGBGBGBbFtXCZOBECEEdHCGBdQFbQBdPRbFbWP",
      "tSjtNcMbguEcPbTCkIDbBUbVEJBeKbLICdYCdDUcCEATbZMcRKJGXDABbWCbJMbCDcMOKGbEBcCJNCJGWDcUYCC",
      "PCEKFCFCFJGBGBbQBNGeSBBCJGqnRMWEbWmnCoBCeBbMGMEFLBMBEBABBBBBeDbHnYScLCcBbOLEPQPDBYCbGEB",
      "fETJHZEABZKdLDFCFCFCCbJLBZBSBBBOCNbIeScRcAfGAfAbCDbWPAbFbFNbDFbQFbDCbJEHBEbQgBCJGbJEbJE",
      "bNIbZMKBOBGBBBKBOBGBBDbZMlYJVKHYFBbPBIcRFCABbRBBDACWKWJbEcNSBBKVKZGZbMcDGBcMDBBFHBCBbCC",
      "CEAbGbCDbCbJHBbDZcBKVKSNReGcUcDbYNbYNbNIJGbLDEBWjQbPBBDBQFbYbIKAIbGbFVbQUbBWJcSbFPJcHHA",
      "NYHJGcABJEDIbJCAJcQEDBMBAbJRBbKGDcKGBABDBOBJHcGFJGDBHCBCVBGBBBEBJCBCCCAGAFGCGDELJBACABb",
      "LBJBACABDBHNBbDcWFJEDbEcRBAIJgKcBCIXFbIcMDALJbMcEHJGTbCbACOEJGGhDcGdXcVVHCACHBBBbDBBCIM",
      "JcSHCbTCHBBbBcKIAIcVDAScUdZHdKbGPJGIBbSBIPJYbDCVBNcVGBBBbRDABBBIIJGFBBBbKBBBFHJGbREJjMW",
      "JQBbODENKdHAdBbjLdYeGRhNdxKdSPbpFQVKfxQFwKkdDcFcoSvWHbEBJGdABJGbDCELcCJDMJJUFSqQbSDJhQc",
      "LbGYCYbScWEcEHQcMBBBLGJkxXbPbFdTeKmwRDBGBBBlEPAbDCCAODIpFdkUeCFMDIHJDBgeRJtYbTCWuWEDFIH",
      "CGbEDfSCrBdGBcSBBCACBCDBLBABGBcMBDCHBGBbBBDBEBADGBnBCYBYBbEBYBbEBYBbEBYBbEBYBHCbXtScCEb",
      "XIAOAWEBObqMbEGFiFGBQCGBBBEFcJbHAeIbSDNCJEAmJbERcFsCbPiGbQhPbEBVIBiQGBDBBBOBhOLGbPcXEJb",
      "tUDBbABBBACABJBDBABAGAEABABABCBBBACABABABABABBBACDBGBDBDBABJBQFCBEBQfaAJbnQclfBbGgmNCio",
      "BClbKPxXdqWuVcfYhhYFmoNbogxYjF"])),
  (["ids", "idstart"],
    (String.join [
      "cNZGZbVAKAEAFWBbEBrPELOEHABAeZEBBCDBAGABCBABTBdEBfIIgJBbLCAGbOcTbAEDbTbQbJBBdUBAPBHBKCC",
      "AQABbDbDdKLAYbGJBEAFVEAJADAXYHKFXBGQbPcGcBDASAHJPPEHCBCVBGBADDDAQANBBCOBKAIFEBCVBGBBBBB",
      "BbFDBATCQIBCBVBGBBBEDASAPBXALHCBCVBGBBBEDAbEBBCPARABFDCBDDBBABBDBDCDLWAcAHBCBWBPDAbACBB",
      "CBbEAEHBCBWBJBEDAbECBBPBRIBCBbOCAQAFCICYFFRDXBIBACGcGbVBBMGcGBBABEBXBABJBBJACEBAVDbGAcL",
      "HBbJbBEeLbQUAQFEDDADBHCEMMARbLBAFACbQBmUBDCGBABDCbOBDCbGBDCGBABDCOBcEBDCcObLPQdHCFDxVCQ",
      "BZFcWDKHRNSOROMBCPbZbJAEAcPdKHbOBAFcRKbEbXbDCELbREZcCWJcAdEAdPbURHcCbDNBKbRbAbJbPCKbJCK",
      "FbQCCbPDBFBBDAFhJcMkRCFCbLCFCHBABABABbECcABGBADCBGDDCFEMFCBGeMANAQMdXAEACJBACFGABABABPC",
      "DFEEARbOdzBiUGDDBMbLBAFACcDHAQWJGBGBGBGBGBGBGBGvECZIHECEEdHEEBdLBDFbQBdPRbFbWPtSjtNcMbg",
      "uEcPbTCkIDPKBUbUQbECdBbNICdYCdDUQBCBDBWbDbZObXcKFDABBLbBKWZbCHbUbCAQEBJKEBbOXCBHUWDADbX",
      "BADBCECABAYCCKHCMFCFCFJGBGBbQBNGeKbDqnRMWEbWmnCoBCeBbMGMEFABJBMBEBABBBBBeDbHnYScLCcBbOL",
      "eMEBfEbKZGZLdKDFCFCFCCbJLBZBSBBBOCNbIeScRcAkHbCDbWbVbFNbDFbLKbDCbJEHBEbQgBSbJEbJEbNIbZM",
      "KBOBGBBBKBOBGBBDbZMlYJVKHYFBbPBIcRFCABbRBBDACWKWJbEcNSBBKVKZGZbMcDGBcMAPDBCBbCbQbCDbCbJ",
      "HBbBbBcBKVKSNReGcUcDbYNbYNbJbMbBJWjQbPGBQFcEbCKAIVbQRbUUbBWMcAcFBCANbSbGYbAbJbDACAIbIDA",
      "MbVODVABAbJRBYTBcLGBABDBOBJHbUbMHCBCVBGBBBEDASAMEbEJBACABbLBAZABAbScASDUCbEbVUBBAhCbUbP",
      "DbKbVUAcHbQNAcTbAbLGhDbReMcLbFHCACHBBBXPABAdQHCbMQABAbCAKbNHAVALbTTAScUhRbGbFIBbKRAbXbD",
      "eIGBBBbLVAZFBBBbFOAXbRkASPABMBbHeUAdBbjLdYeGRhNdxKdSPbpFRFZfxQFwKkdDbDcpUvWHbERdARbDSbV",
      "QDbFUFSqQbSiDcLbGYCYbScWFAcOMcMBBAOEJkxXbPbFdTeKmwRDBGBBBlEPAbDCCAODIpFdkUeCFMDIHJiwKdG",
      "BcSBBCACBCDBLBABGBcMBDCHBGBbBBDBEBADGBnBCYBYBbEBYBbEBYBbEBYBbEBYBHcsYbEGFkBcJfQbSKGQAmJ",
      "bDSbRsQbBiUbDCAhZbEBCBBBGCEJBiQGBDBBBOBhOcHcPHAbuIDBbABBBACABJBDBABAGAEABABABCBBBACABAB",
      "ABABABBBACDBGBDBDBABJBQFCBEBQgoAclfBbGgmNCioBClbKPxXdqWuVcfYhhYFmoN"])),
  (["ideo", "ideographic"],
    (String.join [
      "seWBZIOCblDjtNcMbfbJbhsIoBCeBbsiKANEJkxXbPbFdTeKnlLpFbdeIclfBbGgmNCioBClbKPxXdqWuVcfYhh",
      "YFmoN"])),
  (["joinc", "joincontrol"], joinControl),
  (["loe", "logicalorderexception"],
    "fkIEeTEedSCCAccxMBCABB"),
  (["lower", "lowercase"],
    (String.join [
      "dTZbVAKAEAbKXBHBABABABABABABABABABABABABABABABABABABABABABABABABABABABBBABABABABABABABB",
      "BABABABABABABABABABABABABABABABABABABABABABABACABABCCABACADBEACADCCACABABACABBBACADABAC",
      "BCCGACACABABABABABABABABBBABABABABABABABABBCABADABABABABABABABABABABABABABABABABABABABA",
      "BABABABABABABABABABGCACBBAEABABABABcQCbIHBbEEdSAbRABADACDSAbBbIBBDCBABABABABABABABABABA",
      "BABEBACACBbZbVBABABABABABABABABABABABABABABABABAJABABABABABABABABABABABABABABABABABABAB",
      "ABABABABABABABACABABABABABABBBABABABABABABABABABABABABABABABABABABABABABABABABABABABABA",
      "BABABABABABABABABABABABABABABABABABABAbWbOehBbQBDbdGFdfUIBAeNhJcNABABABABABABABABABABAB",
      "ABABABABABABABABABABABABABABABABABABABABABABABABABABABABABABABABABABABABABABABABABABABA",
      "BABABABABABABABABABABABABABABABABABABABIBABABABABABABABABABABABABABABABABABABABABABABAB",
      "ABABABABABABABABABABABABABABABABABABABABABABABABABIIFKHIHIFKHIHINCHIHIHIEBBGADCBBIDCBIH",
      "KCBBeRANAQMeFADBDAbBAEAEACBIDEAbHPEAbgLZctQbVBADBBABABAEABBBHDABABABABABABABABABABABABA",
      "BABABABABABABABABABABABABABABABABABABABABABABABABABABABABABABABABABABABABBHABAEAMbLBAFA",
      "btwDABABABABABABABABABABABABABABABABABABABABABABATABABABABABABABABABABABABABCfDABABABAB",
      "ABABCBABABABABABABABABABABABABABABABABABABABABABABABABABABABABABABJBABACABABABABAEABACA",
      "BCBABABABABABABABABABAFAFABABABABABABABAEABACABABABABABABABAVDBABCbfPbQBNGdBbeaIGMEboZZ",
      "bvHbNfGbJfZKBOBGBBrJACCBbPBIbxLbYeVVegObFbgjWbFcHYbmjEZbAGBRbAZbADBABGBKbAZbAZbAZbAZbAZ",
      "bAZbAZbAZbAbBbCYBFbAYBFbAYBFbAYBFbAYBFBAcsYJBTGFkBcJdhSbH"])),
  (["math"],
    (String.join [
      "bRAQCbFAbDABAbTAEAbLAbFAbcACCAbABCCuHCjwNAbBCLADANAODVELEcNMEADBEESAEACJBACFGADBCBBCBFD",
      "NBAcQXBFBBEBEbFBAGBOkHIDUBdMAbEbABAYALGrDBMJEFEBCBDEOABACFLHFBcFABAbDDJCmYcLjWtRbWUCFda",
      "sQAbfRFBAgGAQCbDABAbDABAfBAGDfeFBcvgAAbxVdGBcSBBCACBCDBLBABGBcMBDCHBGBbBBDBEBADGBnBClFC",
      "bXiiQDBbABBBACABJBDBABAGAEABABABCBBBACABABABABABBBACDBGBDBDBABJBQFCBEBQcABdtEI"])),
  (["nchar", "noncharactercodepoint"],
    (String.join [
      "dsdCbFuGBdsyOBdsyOBdsyOBdsyOBdsyOBdsyOBdsyOBdsyOBdsyOBdsyOBdsyOBdsyOBdsyOBdsyOBdsyOBdsy",
      "OB"])),
  (["patsyn", "patternsyntax"],
    "bHOKGbADBAbADbIGBABBBABBEAEADAXAbFAluEXIOCSBJlTbbRgEyFbEbrNtSeXoVCEYPAczqZBkBB"),
  (["patws", "patternwhitespace"],
    "JESAdWAlyMBYB"),
  (["qmark", "quotationmark"],
    "bIAEAfBAPAlwUHZBfiDArPDNCdabPDhHAEAdMB"),
  (["radical"],
    "rpWZBdKMiF"),
  (["ri", "regionalindicator"],
    "hgoKZ"),
  (["sterm", "sentenceterminal"],
    (String.join [
      "bHAMAQAcaBAfRCgYAbRCjMAcJABADBlHBcpWBbeKAEBbdTAhQBgBBbTAFAmCBnQDgGBKBCBbDChFBcNBbjWAXBJ",
      "CeuXClUANAWBqNAbshWAkKBiTADAoSBdIBdRAfWBfRCfOBjPAbfcWACBcHADBgNAMAQAcNAedWBbxDEbSDhHBeN",
      "DeXCeZBGAQBdKBBBeEAlMBeNBoJBFOeBBjPCtXABAjRBdJBqEBbaQBcWBbcmBBfDAcNBLAvHBlKAbdoGAliMA"])),
  (["sd", "softdotted"],
    (String.join [
      "eBBhOAkVAbEAcAAUAmIAdUABAjmNAbZANADAfCAgBAqFAiGBegGAgelHBbYBbYBbYBbYBbYBbYBbYBbYBbYBbYB",
      "bYBbYBdfYAlTBbAA"])),
  (["term", "terminalpunctuation"],
    (String.join [
      "bHAKABALBDAbfYAIAtTAcFAcUAOABCgYAbRKBAjBBcCFBHbFAkBBbwUBgQAEFlZBbeJHbdTAeUCcTBgBCDAbNDC",
      "BmCBnQDgGBKBBCbDChFEcKBbjWAXBJCeuXClUANAEAKABBDBqMBbshVBkJCiTEoSBdIBdRAfVCfRCeXAQBjPAbf",
      "cWACBcFCBDgNAKABALBDAcNACAbpQAbWAbsOAhRAlYBfWFcQFdLDbkQEbSDhHGeIDeXCeZBGAQBdKEeEAlMBeNC",
      "MBnUDDOeBBjPCtXABAjRBdJBEBpYCbTAyVBcWBbyXEbamZBfDAcNCKAvHBlJBbdoGAliLD"])),
  (["uideo", "unifiedideograph"],
    "tsAjtNcMbfbJbicSBBABBKABABBCCdveCclfBbGgmNCioBClbKPxXgrQhhYFmoN"),
  (["upper", "uppercase"],
    (String.join [
      "cNZdXWBGbHABABABABABABABABABABABABABABABABABABABABABABABABABABABACABABABABABABABACABABA",
      "BABABABABABABABABABABABABABABABABABABABABBBABADBBABBBCCDBBBCDBBBBABABBBACABBBCBABBDAHAC",
      "ACACABABABABABABABACABABABABABABABABACACABCBABABABABABABABABABABABABABABABABABABABABABA",
      "BABABABABABABAHBBBCABDBABABABAlDABADAIAGABCBABBBQBIbJACCDABABABABABABABABABABABAFACABBC",
      "bYbWABABABABABABABABABABABABABABABABAJABABABABABABABABABABABABABABABABABABABABABABABABA",
      "BABABBBABABABABABACABABABABABABABABABABABABABABABABABABABABABABABABABABABABABABABABABAB",
      "ABABABABABABABABABABABABABACbLehDbLBAFAbbUdHdgLAGbQCCmIABABABABABABABABABABABABABABABAB",
      "ABABABABABABABABABABABABABABABABABABABABABABABABABABABABABABABABABABABABABABABABABABABA",
      "BABABABABABABABABABABABABABABAJABABABABABABABABABABABABABABABABABABABABABABABABABABABAB",
      "ABABABABABABABABABABABABABABABABABABABABAJHIFKHIHIFLABABABAIHcUDMDMDMELDkCAEADCCCCADEGA",
      "BABABDCDKBFAbAPTAbfMZcsUbVbWABCCABABABDBACAICBABABABABABABABABABABABABABABABABABABABABA",
      "BABABABABABABABABABABABABABABABABABABABABABABABABABABABAIABAEAbtyJABABABABABABABABABABA",
      "BABABABABABABABABABABABATABABABABABABABABABABABABABAfFABABABABABABADABABABABABABABABABA",
      "BABABABABABABABABABABABABABABABABABABABABAKABABBBABABABAEABACABADABABABABABABABABABABEB",
      "EBABABABABABABABDBABBBABABABABABABABAYAbhaHZbuZbNfGbJgAKBOBGBBcqCbYgBVegObFbgjWbFcMYbmj",
      "FZbAZbAZbAABBCACBCDBHbAZbABBDCHBGbBBBDBEBADGbBZbAZbAZbAZbAZbAZbEYbHYbHYbHYbHYbHAgnLbHdb",
      "IZGZGZ"])),
  (["vs", "variationselector"],
    "jcTCBAdjcAPbwnkYjF"),
  (["wspace", "space", "whitespace"], whiteSpace),
  (["xidc", "xidcontinue"],
    (String.join [
      "bWJHZEABZbVAKABACAFWBbEBrPELOEHABAReMBBDCBAGEBABTBdEBfIBECgJBbLCAGbOIbSBABBBBBAIbAEDbDK",
      "FcVEdXBHCJBSCAQcGCdWOcBEACACbTSbBEKFXBGHcWBeYCJBSBHCBCVBGBADDCICBCDIAEBBECLKABACCBFEBCV",
      "BGBBBBBBCABEEBCCDAHDBAHPLCBIBCBVBGBBBECJBCBCCAPDCJJGBCBHCBCVBGBBBECICBCCHCEBBECJBAQBBFD",
      "CBDDBBABBDBDCDLEEDCBDCAGAOJQMBCBWBPCIBCBDHBBCBBCDCJQDBHBCBWBJBECIBCBDHBFCBDCJBCMMBCBbYB",
      "CBEFDHECJKFBCBRDXBIBACGDAEFBABHGJCBNcFFOBJbNBBABEBXBABWCEBABGBJCDbGAXBGJLABABAEJBbJETBR",
      "BbJJAcFcVGcZCbLBAFACbQBmUBDCGBABDCbOBDCbGBDCGBABDCOBcEBDCcOCCJIOPQdHCFDxVCQBZFcWDKHVJVL",
      "TMMBCBBMdFDAEBCJbHCBKGdKHbQFcRKbEBLELKbNCELbREZGKbLbBEcKBbCCKGJNAINBbECLUcYDJRIMeLMcDIJ",
      "DbWCKFbQCCQCBbMFuNCFCbLCFCHBABABABbECcABGBADCBGDDCFEMFCBGPBbXBTAbCANAQMbZMEADLRAEACJBAC",
      "FGABABABPCDFEEARbOdzBiUGIMbLBAFACcDHAPXJGBGBGBGBGBGBGBGBbFtXCZOBECEEdHCBCCBdQFbQBdPRbFb",
      "WPtSjtNcMbguEcPbTCkIDbBUbVEJBeKbLICdYCdDUcCEATbZMcRKJGXDABbWCbJMbCDcMOKGbEBcCJNCJGWDcUY",
      "CCPCEKFCFCFJGBGBbQBNGeSBBCJGqnRMWEbWmnCoBCeBbMGMEFLBMBEBABBBBBeDbHfIGiJScLCcBbOJGPQPDBY",
      "CbHABADABABABABeVTJHZEABZKdLDFCFCFCCbJLBZBSBBBOCNbIeScRcAfGAfAbCDbWPAbFbFNbDFbQFbDCbJEH",
      "BEbQgBCJGbJEbJEbNIbZMKBOBGBBBKBOBGBBDbZMlYJVKHYFBbPBIcRFCABbRBBDACWKWJbEcNSBBKVKZGZbMcD",
      "GBcMDBBFHBCBbCCCEAbGbCDbCbJHBbDZcBKVKSNReGcUcDbYNbYNbNIJGbLDEBWjQbPBBDBQFbYbIKAIbGbFVbQ",
      "UbBWJcSbFPJcHHANYHJGcABJEDIbJCAJcQEDBMBAbJRBbKGDcKGBABDBOBJHcGFJGDBHCBCVBGBBBEBJCBCCCAG",
      "AFGCGDELJBACABbLBJBACABDBHNBbDcWFJEDbEcRBAIJgKcBCIXFbIcMDALJbMcEHJGTbCbACOEJGGhDcGdXcVV",
      "HCACHBBBbDBBCIMJcSHCbTCHBBbBcKIAIcVDAScUdZHdKbGPJGIBbSBIPJYbDCVBNcVGBBBbRDABBBIIJGFBBBb",
      "KBBBFHJGbREJjMWJQBbODENKdHAdBbjLdYeGRhNdxKdSPbpFQVKfxQFwKkdDcFcoSvWHbEBJGdABJGbDCELcCJD",
      "MJJUFSqQbSDJhQcLbGYCYbScWEcEHQcMBBBLGJkxXbPbFdTeKmwRDBGBBBlEPAbDCCAODIpFdkUeCFMDIHJDBge",
      "RJtYbTCWuWEDFIHCGbEDfSCrBdGBcSBBCACBCDBLBABGBcMBDCHBGBbBBDBEBADGBnBCYBYBbEBYBbEBYBbEBYB",
      "bEBYBHCbXtScCEbXIAOAWEBObqMbEGFiFGBQCGBBBEFcJbHAeIbSDNCJEAmJbERcFsCbPiGbQhPbEBVIBiQGBDB",
      "BBOBhOLGbPcXEJbtUDBbABBBACABJBDBABAGAEABABABCBBBACABABABABABBBACDBGBDBDBABJBQFCBEBQfaAJ",
      "bnQclfBbGgmNCioBClbKPxXdqWuVcfYhhYFmoNbogxYjF"])),
  (["xids", "xidstart"],
    (String.join [
      "cNZGZbVAKAEAFWBbEBrPELOEHABAeZEBBDCBAGABCBABTBdEBfIIgJBbLCAGbOcTbAEDbTbQbJBBdUBAPBHBKCC",
      "AQABbDbDdKLAYbGJBEAFVEAJADAXYHKFXBGQbPcGcBDASAHJPPEHCBCVBGBADDDAQANBBCOBKAIFEBCVBGBBBBB",
      "BbFDBATCQIBCBVBGBBBEDASAPBXALHCBCVBGBBBEDAbEBBCPARABFDCBDDBBABBDBDCDLWAcAHBCBWBPDAbACBB",
      "CBbEAEHBCBWBJBEDAbECBBPBRIBCBbOCAQAFCICYFFRDXBIBACGcGbVBANGcGBBABEBXBABJBAKACEBAVDbGAcL",
      "HBbJbBEeLbQUAQFEDDADBHCEMMARbLBAFACbQBmUBDCGBABDCbOBDCbGBDCGBABDCOBcEBDCcObLPQdHCFDxVCQ",
      "BZFcWDKHRNSOROMBCPbZbJAEAcPdKHbOBAFcRKbEbXbDCELbREZcCWJcAdEAdPbURHcCbDNBKbRbAbJbPCKbJCK",
      "FbQCCbPDBFBBDAFhJcMkRCFCbLCFCHBABABABbECcABGBADCBGDDCFEMFCBGeMANAQMdXAEACJBACFGABABABPC",
      "DFEEARbOdzBiUGDDBMbLBAFACcDHAQWJGBGBGBGBGBGBGBGvECZIHECEEdHGCBdLBDFbQBdPRbFbWPtSjtNcMbg",
      "uEcPbTCkIDPKBUbUQbECdBbNICdYCdDUQBCBDBWbDbZObXcKFDABBLbBKWZbCHbUbCAQEBJKEBbOXCBHUWDADbX",
      "BADBCECABAYCCKHCMFCFCFJGBGBbQBNGeKbDqnRMWEbWmnCoBCeBbMGMEFABJBMBEBABBBBBeDbHfIGiJScLCcB",
      "bOJePABADABABABABeVbKZGZLcDCbEDFCFCFCCbJLBZBSBBBOCNbIeScRcAkHbCDbWbVbFNbDFbLKbDCbJEHBEb",
      "QgBSbJEbJEbNIbZMKBOBGBBBKBOBGBBDbZMlYJVKHYFBbPBIcRFCABbRBBDACWKWJbEcNSBBKVKZGZbMcDGBcMA",
      "PDBCBbCbQbCDbCbJHBbBbBcBKVKSNReGcUcDbYNbYNbJbMbBJWjQbPGBQFcEbCKAIVbQRbUUbBWMcAcFBCANbSb",
      "GYbAbJbDACAIbIDAMbVODVABAbJRBYTBcLGBABDBOBJHbUbMHCBCVBGBBBEDASAMEbEJBACABbLBAZABAbScASD",
      "UCbEbVUBBAhCbUbPDbKbVUAcHbQNAcTbAbLGhDbReMcLbFHCACHBBBXPABAdQHCbMQABAbCAKbNHAVALbTTAScU",
      "hRbGbFIBbKRAbXbDeIGBBBbLVAZFBBBbFOAXbRkASPABMBbHeUAdBbjLdYeGRhNdxKdSPbpFRFZfxQFwKkdDbDc",
      "pUvWHbERdARbDSbVQDbFUFSqQbSiDcLbGYCYbScWFAcOMcMBBAOEJkxXbPbFdTeKmwRDBGBBBlEPAbDCCAODIpF",
      "dkUeCFMDIHJiwKdGBcSBBCACBCDBLBABGBcMBDCHBGBbBBDBEBADGBnBCYBYBbEBYBbEBYBbEBYBbEBYBHcsYbE",
      "GFkBcJfQbSKGQAmJbDSbRsQbBiUbDCAhZbEBCBBBGCEJBiQGBDBBBOBhOcHcPHAbuIDBbABBBACABJBDBABAGAE",
      "ABABABCBBBACABABABABABBBACDBGBDBDBABJBQFCBEBQgoAclfBbGgmNCioBClbKPxXdqWuVcfYhhYFmoN"]))]

/-- The code points with the property of this name. -/
def named? (name : String) : Option (List Range) :=
  (table.find? fun e => e.1.contains name).map fun e => Range.ofText e.2

end BrowserShell.Unicode.Property
