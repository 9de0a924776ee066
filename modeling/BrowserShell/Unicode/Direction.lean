import BrowserShell.Unicode.Table

/-!
# Writing direction and cursive joining

The two tables behind the rules on the order of characters in a domain label: the bidirectional
class of a character and its joining type.
-/

namespace BrowserShell.Unicode

/-- The bidirectional class of a character, those that no label may hold taken together. -/
inductive Direction where
  | leftToRight
  | rightToLeft
  | arabicLetter
  | arabicNumber
  | europeanNumber
  | europeanSeparator
  | commonSeparator
  | europeanTerminator
  | otherNeutral
  | boundaryNeutral
  | nonspacingMark
  | other
deriving DecidableEq, Repr, Inhabited

/-- The classes in the order of their numbers in the table. -/
def Direction.all : List Direction :=
  [.leftToRight, .rightToLeft, .arabicLetter, .arabicNumber, .europeanNumber, .europeanSeparator,
   .commonSeparator, .europeanTerminator, .otherNeutral, .boundaryNeutral, .nonspacingMark, .other]

/-- The ranges of code points that do not run from left to right, with the number of their class. -/
def directions : RangeMap Nat := .ofText
  (String.join [
    "AIJAELANJAELABIACHAEIAAFAAGAAFABGAJEAAGAFIbAFIbADIAFJAALAZJAAGAAIADHADIBBIAAJABIABHABEAAI",
    "BCIAAEBEIXAIbFAIrHBIHNICNIFIIBQIAeHKEBIIAIFBIBAIeGAIfKGKjWAICBIAAHAABAbSKAABAAKAABABKAABA",
    "BKAABAAKAcDBAFDABIAACABHAACAAGAACABIAKKAbVCAUKAJDAAHABDACCAAKAdWCAGKAADAAIAFKABCABKAAIADK",
    "ABCAJEAWCAAKAbDCAbAKAdMCAKKAOCAbQBAIKABBADIACBAAKAXBADKAABAIKAABACKAABAEKAbQBACKADBAbVCAB",
    "DAECAIKAbPCAXKAADAbFKcDAKBAKEHKEAKDGKKBKbDAKcGAKEDKIAKUBKOBHHAHCAKCBKcFAKEBKEBKCCKDAKbEBK",
    "DAKLBKcFAKEEKBBKEAKUBKNAHIFKBAKcGAKCAKBDKIAKHBKLBKbEAKcJAKMAKbLFIAAHAAIFAKDAKcDAKBCKFCKBD",
    "KHBKLBKUGICAKcGAKPBKUBKbCBKcFBKEDKIAKUBKbDAKcUAKHCKBAKdMAKCGKEAHHHKdUAKCIKLGKcVBKbBAKBAKB",
    "AKADIbZNKBEKBBKFKKBbJKJAKdYDKBFKBBKCBKZBKECKQDKNAKCBKGAKPAKbbBCKbWJIdYAIyPALbABIeNCKbDBKb",
    "EBKbEBKcMBKBGKIAKCKKHAHBAKSJIGKIACKAAJAAKeNBKbIAKeOCKEBKJAKGCKEAIDBIfWbHIXBKCAKcGAKBGKBAK",
    "BAKCHKGJKCAKbWbTKCLKUDKbWAKBEKBAKFAKbOIKMBKbGDKCBKBCKcEAKBBKDAKBCKcGHKCBKfWCKBMKBGKEAKGAK",
    "DBKhQcLKrDAIBCILCINCINCINBIBKLACJBABAXIAGLAAGAEHAOIAAGAZIAALAFJADLAFJAAEDFEABFACIBJEABFAC",
    "IRbVHAbGKPBIBDIBBIKAIBCIFFIBAIBAIBAIEAHLBIEEIFDICPIbPCIEeZIAAFAAHAlDIcRZIBfRIWKIVbNIATEdA",
    "rHIBnAIjWyDICfHIiVFIECKHGIeXAKdSbFKAdPIbIZIBdKIMiFIbAPIAALADIDYIJDKCAIFBIFCIdLBKABIDAIdMA",
    "IhObLIJAIbTBIbXPIbCCIbYOIMDIgLDIdVBIbFAIjtOcLIbguIcCImOCIdRDKAAIAJKABIbEBKdCBKObHIdYAIeRA",
    "KDAKEAKZBKBDIAAKLBHcGDIcYBKbARKNAKbMHKZKKbUCKbWAKCDKCBKbNAKcPFKCBKCBKMAKIAKbVAKbZAKBCKCBK",
    "FBKBAKbQBKIAKeLBIeRAKCAKEAKbdzRABAAKAJBAAFAbLBAsZCARIAeWCAAIAbFJAMCACIAPKAJIGPKAbFIAAGAAI",
    "AAGBAIAAGAIIAAHABIABFACIBAIABHAAIEfMCAAJBBIACHAEIAAFAAGAAFABGAJEAAGAFIbAFIbAKIeSBHACIABHB",
    "GIBIJAEIABJjXAIcKcYIDMIDAIdOAKiSAKAbAEeSEKbsNlABAAIAiQBACKAABABKAEBADKAbNBACKADBAAKAgIBAB",
    "KAdDBAGIArFBAbJCADKAHCAJDAFCAbOBAEKAjHBAbEDAbRBABKASBAcFCAFKAbVBAVCAKKAbECARBADKAeRBBAKcC",
    "OKLTIKAKCBKKCKbXDKCBKHAKcJCKbKEKBHKcKAKMBKcAIKKDKCAKdRCKCAKBBKGAKCAKgBAKDHKVBKcFBKDAKbLGK",
    "DEKcSFKNAKBAKBAKOBKdHHKCCKBAKXAKdGFKBAKEBKBBKjEDKGBKBBKbBBKdHHKCAKBBKbFMIcKAKBAKCFKBAKdXC",
    "KCDKBEKjZIKBBKjWBKBAKEAKfODKCBKEAKbGFKCBKbOFKCDKIAKJFKCCKbUMKBBKhQAKBCKBAKhTGKBFKdGVKCGKB",
    "BKBBKeSFKDAKBBKBGKBAKcUBKDAKBAKnJBKLBKcAEKFAKBAKXAKeSHIADHAQIhrYAKGOKqyYLKDCKdsAEKcHGKboI",
    "AKcLDKdBAIBAKbdbKBKBDJfvGjFIKCIDqTIGWIPQIPbTKCWKuYCKJHJAHKCGKbEDKcHBIVcNIACKAAIhEdIIbiQAI",
    "cFAIcFAIcFAIcFAIKbXEtScCKEbXKIAKOAKWEKBOKcaIGKBQKCGKBBKBEKdWAKgEGKoLAKcJDKPAHsYDKjUBKjJAK",
    "CAKHBKFAKkGhZBAGKAeEBAGKAbeYBAdBCAcLBAdBCAgTBAjFCABIANCAjVBAbRIEdVIMOICOIBOIBbKIKKEAEIbFA",
    "IcGFIcJAIgWFIfYblWIDQIDMIDiJIGLIEAIPLIEcDIIJIGbNIIbDICLIEBIOIIbNnFIINICMIDKIDcEIBAIEPICLI",
    "EJIHfQIBdNIAJEAAIbnNBJdsyOBJdsyOBJdsyOBJdsyOBJdsyOBJdsyOBJdsyOBJdsyOBJdsyOBJdsyOBJdsyOBJd",
    "syOjXJAjFKAfiLJdmxABJdsyOBJdsyOBJ"])

/-- The bidirectional class of a code point. -/
def direction (n : Nat) : Direction :=
  ((directions.find? n).bind fun k => Direction.all[k]?).getD .leftToRight

/-- How a character joins with its neighbours in a cursive script. -/
inductive Joining where
  | transparent
  | left
  | right
  | dual
  | causing
  | none
deriving DecidableEq, Repr, Inhabited

/-- The joining types in the order of their numbers in the table. -/
def Joining.all : List Joining := [.transparent, .left, .right, .dual, .causing]

/-- The ranges of code points that take part in joining, with the number of their type. -/
def joinings : RangeMap Nat := .ofText
  (String.join [
    "gRAAwWeHAkPGAkDbSABAABBABBABAAcUKABAADADBDCAADAACAADAACAEDADCAMDAAEAGDAACABDAUAOBDAAAACCB",
    "CCAPDARCAbLDAACABDAICAADAACAADAACABDABCBACAGACFACBABDAABCKCDCADPAAAACAAAACDAECADDAACAIDAA",
    "CAADAACAADAACABDAACAbAACACAKDACCAODABCADDAACAADABCACDABCAFDbMKAZbGDAIAGAECAAYDABIABCABEAS",
    "ACAEDABCAADAACAJDAACAADACCACAEADBDDBACAADABCFSCACEAADCEDAACAADHIAAJDACCBACABDABCAFDAACAOD",
    "BXABbFAcDAABAAEHAEAADGAKBAbDAAcGAAEDAIAAUBAbAAACBAcFAAEBAEBACCADAAbEBADAALBAcFAAEEABBAEAA",
    "UBAWFABAAcGAACAABDAIAAHBALBAbEAAcJAAMAAbYAADAAcDAABCAFCABDAHBALBAbDAAcGAACAAGAAFBAUBAbCBA",
    "cFBAEDAIAAUBAbDAAcUAAHCABAAdMAACGAMHAdUAACIALGAcVBAbBAABAABAAcDNABEABBAFKABbJAJAAdYDABFAB",
    "BACBAZBAECAQDANAACBAGAAPAAbbBCAbkKCAbDBAbEBAbEBAcMBABGAIAACKAJAAbPADCAEACABAAQdKDMBAAbHDA",
    "AAAADeNCAEBAJAAGCAiLBACAAcGAABGABAABAACHAGJACAAbWbTACLAUDAbWAABEABAAFAAbOIAMBAbGDACBABCAc",
    "EAABBADAABCAcGHACBAfWCABMABGAEAAGAADBAhQcLAuDAABAEABAbAEAbXEAFFAdSbGAeoCCAfLAAdSbFAvIDAeD",
    "BAbsqEDABJAbGBAdCBAkMAADAAEAAZBAFAATbXDAABdDBAbARANAAbMHAZKAbUCAbWAACDACBAbNAAcPFACBACBAM",
    "AAIAAbVAAbZAABCACBAFBABAAbQBAIAAjEAACAAEAAbdzSAAbcJPAQPAhZAAjPCAtTAAiSAAfTEAcmGCABBAFDAbO",
    "CAEAAeYEDAACBACBBCCABAECADDAABAEDAACACDAACCACABAEDDAACfOADAACAADACCACDAACABDAACAADABCAADA",
    "ACXDCABDmZABAbGDAACAADADAcNEAmFBAVACABDBBDbYFAbWCDAACAQDBKAACDAACbBDDABCALDADAbQADBBDACCB",
    "ADABCABDAACABDBADABCAADEACAADAABcBAAcCOAbPAACBAKCAbXDACBAHAAcJCAbKEABHAcKAAMBAcAIAKDACAAd",
    "RCACAABBAGAACAAgBAADHAVBAcFBADAAbLGADEAcSFANAABAABAAOBAdHHACCABAAXAAdGFABAAEBABBAjEDAGBAB",
    "BAbBBAdHHACAABBAeCAABAACFABAAdXAABAACDABEAjZIABBAjWBABAAEAAfODACBAEAAbGJAbOFACDAIAAJFACCA",
    "bUMABBAhQAABCABAAhTGABFABAAdEVACGABBABBAeSFADAABBABGABAAcUBADAABAAnJBALBAcAEAFAABAAXAAhxD",
    "QAGOAqyYLADCAdsAEAcHGAboIAAcLDAdDAAbdbKBABDAgyUbTACWAuYCAJPACGAbEDAfSCAcyDcCAEbXAIAAOAAWE",
    "ABOAcaIGABQACGABBABEAdWAAgEGAoLAAcJDAtODAjUBAjJAACAAHBAFAAsGGAbPcPDAHAbtbyZAAbEdRAeYjFA"])

/-- The joining type of a code point. -/
def joining (n : Nat) : Joining :=
  ((joinings.find? n).bind fun k => Joining.all[k]?).getD .none

end BrowserShell.Unicode
