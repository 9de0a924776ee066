import BrowserShell.Unicode.Table

/-!
# General categories

The general category of every code point. `Category.of?` gives the category of an assigned code
point, and `Category.named?` reads the names, short and long, of a category or of a group of them.
-/

namespace BrowserShell.Unicode

/-- The general category of an assigned code point. -/
inductive Category where
  | uppercaseLetter
  | lowercaseLetter
  | titlecaseLetter
  | modifierLetter
  | otherLetter
  | nonspacingMark
  | spacingMark
  | enclosingMark
  | decimalNumber
  | letterNumber
  | otherNumber
  | connectorPunctuation
  | dashPunctuation
  | openPunctuation
  | closePunctuation
  | initialPunctuation
  | finalPunctuation
  | otherPunctuation
  | mathSymbol
  | currencySymbol
  | modifierSymbol
  | otherSymbol
  | spaceSeparator
  | lineSeparator
  | paragraphSeparator
  | control
  | format
  | surrogate
  | privateUse
deriving DecidableEq, Repr, Inhabited

namespace Category

/-- The categories, in the order of their numbers in the table. -/
def all : List Category :=
  [.uppercaseLetter, .lowercaseLetter, .titlecaseLetter, .modifierLetter, .otherLetter,
   .nonspacingMark, .spacingMark, .enclosingMark, .decimalNumber, .letterNumber, .otherNumber,
   .connectorPunctuation, .dashPunctuation, .openPunctuation, .closePunctuation,
   .initialPunctuation, .finalPunctuation, .otherPunctuation, .mathSymbol, .currencySymbol,
   .modifierSymbol, .otherSymbol, .spaceSeparator, .lineSeparator, .paragraphSeparator,
   .control, .format, .surrogate, .privateUse]

/-- The category of each range of assigned code points, by its number. -/
def numbered : RangeMap Nat := .ofText
  (String.join [
    "AbFZAAWACRAATACRAANAAOAARAASAARAAMABRAJIABRACSABRAZAAANAARAAOAAUAALAAUAZBAANAASAAOAASAbGZ",
    "AAWAARADTAAVAARAAUAAVAAEAAPAASAAbAAAVAAUAAVAASABKAAUAABABRAAUAAKAAEAAQACKAARAWAAASAGAAXBA",
    "ASAHBAAAAABAAAAABAAAAABAAAAABAAAAABAAAAABAAAAABAAAAABAAAAABAAAAABAAAAABAAAAABAAAAABAAAAAB",
    "AAAAABAAAAABAAAAABAAAAABAAAAABAAAAABAAAAABAAAAABAAAAABAAAAABAAAAABAAAAABAAAAABAAAABBAAAAA",
    "BAAAAABAAAAABAAAAABAAAAABAAAAABAAAAABAAAABBAAAAABAAAAABAAAAABAAAAABAAAAABAAAAABAAAAABAAAA",
    "ABAAAAABAAAAABAAAAABAAAAABAAAAABAAAAABAAAAABAAAAABAAAAABAAAAABAAAAABAAAAABAAAAABAAAAABAAA",
    "AABABAAABAAAAABAAAACBABAAABAAAAABABAAABACAABBADAAABABAAABACAACBABAAABABAAABAAAAABAAAAABAB",
    "AAABAAAABBAAAAABABAAABACAAABAAAAABABAABBAAEAAAACBADEAAAAACAABAAAAACAABAAAAACAABAAAAABAAAA",
    "ABAAAAABAAAAABAAAAABAAAAABAAAAABAAAABBAAAAABAAAAABAAAAABAAAAABAAAAABAAAAABAAAAABAAAAABAAA",
    "ABBAAAAACAABAAAAABACAAABAAAAABAAAAABAAAAABAAAAABAAAAABAAAAABAAAAABAAAAABAAAAABAAAAABAAAAA",
    "BAAAAABAAAAABAAAAABAAAAABAAAAABAAAAABAAAAABAAAAABAAAAABAAAAABAAAAABAAAAABAAAAABAAAAABAAAA",
    "ABAAAAABAAAAABAAAAGBABAAABABAABBAAAAABADAAABAAAAABAAAAABAAAAABAAAAcQBABEAZBARDADUALDANUAE",
    "DAGUAADAAUAADAQUAeHFAAAAABAAAAABAADAAUAAAAABCADACBAARAAAEBUAAAAARACABAABBAAABAQABIAAbIBAA",
    "AABBACAACBAAAAABAAAAABAAAAABAAAAABAAAAABAAAAABAAAAABAAAAABAAAAABAAAAABAAAAABAAAAEBAAAAABA",
    "ASAAAAABABAABBAbYAAbVBAAAAABAAAAABAAAAABAAAAABAAAAABAAAAABAAAAABAAAAABAAAAABAAAAABAAAAABA",
    "AAAABAAAAABAAAAABAAAAABAAAAABAAAAABAAVAEFABHAAAAABAAAAABAAAAABAAAAABAAAAABAAAAABAAAAABAAA",
    "AABAAAAABAAAAABAAAAABAAAAABAAAAABAAAAABAAAAABAAAAABAAAAABAAAAABAAAAABAAAAABAAAAABAAAAABAA",
    "AAABAAAAABAAAAABAAAAABAAAAABABAAABAAAAABAAAAABAAAAABAAAAABAAAAABAAAABBAAAAABAAAAABAAAAABA",
    "AAAABAAAAABAAAAABAAAAABAAAAABAAAAABAAAAABAAAAABAAAAABAAAAABAAAAABAAAAABAAAAABAAAAABAAAAAB",
    "AAAAABAAAAABAAAAABAAAAABAAAAABAAAAABAAAAABAAAAABAAAAABAAAAABAAAAABAAAAABAAAAABAAAAABAAAAA",
    "BAAAAABAAAAABAAAAABAAAAABAAAAABAAAAABAAAAABAAAAABAAAAABAAAAABAAAAABAAAAABAAAAABAAAAABAAAA",
    "ABBbLACADAFRAbOBAARAAMCBVAATBbSFAAMAAFAARABFAARABFAARAAFIbAEEDEABRLFbAACSABRAATABRABVAKFA",
    "ARAAbAACRAbFEAADAJEAUFAJIADRABEAAFAdUEAARAAEAGFAAbAAAVAFFABDABFAAVADFABEAJIACEABVAAEANRBA",
    "bAAAEAAFAbDEAbAFCdKEAKFAAEOJIAbGEAIFABDAAVACRAADCAFABTAVEADFAADAIFAADACFAADAEFCORBYEACFCA",
    "RBKEFXEAAUAGEABbAFIFAbOEAADAXFAAbAAbFFAAGAcBEAAFAAGAAFAAEACGAHFADGAAFABGAAEAGFAJEABFABRAJ",
    "IAARAADAOEAAFABGBHECBECVEBGEBAEDDECAFAAEACGADFCBGCBGAAFAAEIAGEBEBCEABFCJIABEABTAFKAAVAATA",
    "AEAARAAFCBFAAGBFEEBECVEBGEBBEBBEBBECAFBCGABFEBFCCFDAFHDEBAEHJIABFACEAAFAARKBFAAGBIEBCEBVE",
    "BGEBBEBEECAFAAEACGAEFBBFAAGBBGAAFCAEPBEABFCJIAARAATHAEAFFBAFABGBHECBECVEBGEBBEBEECAFAAEAA",
    "GAAFAAGADFCBGCBGAAFHBFAAGEBEBCEABFCJIAAVAAEAFKKAFAAEBFEDCEBDEDBEBAEBBEDBEDCEDLEEBGAAFABGD",
    "CGBCGAAFCAEGAGOJIACKAFVAATAAVFAFACGAAFAHEBCEBWEBPECAFAAEACFADGBCFBDFHBFBCEBBECBEABFCJIHAR",
    "AGKAAVAAEAAFABGAARAHEBCEBWEBJEBEECAFAAEAAGAAFAEGBAFABGBBGABFHBGFCEBBEABFCJIBBEAAGMBFABGAI",
    "EBCEBbOEABFAAEACGADFBCGBCGAAFAAEAAVECEAAGAGKACEABFCJIAIKAAVAFEBAFABGBREDXEBIEBAECGEDAFECG",
    "ACFBAFBHGGJICBGAARMbVEAAFABEAGFEATAFEAADAHFAARAJIABRbLBEBAEBEEBXEBAEBJEAAFABEAIFAAECEEBAD",
    "BGFBJICDEbGAEACVAORAAVAARACVABFAFVAJIAJKAAVAAFAAVAAFAAVAAFAANAAOAANAAOABGAHEBbJEENFAAGAEF",
    "AARABFAEEAKFBbJFBHVAAFAFVBBVAERADVABRbLbQEABGADFAAGAFFAAGABFABGABFAAEAJIAFRAFEABGABFADEAC",
    "FAAEACGABEAGGACEADFAMEAAFABGABFAFGAAFAAEAAGAJIACGAAFABVAbLABAAFAACbQBAARAADACBAmQEBDECGEB",
    "AEBDECbOEBDECbGEBDECGEBAEBDECOEBcEEBDECcOECCFAIRATKDPEAJVGdHACFBCAMAxVEAAVAARAQEAAWAZEAAN",
    "AAODcWEACRACJAHEHREACFAAGJSEABFAAGABRJREABFMMEBCEBBFMbZEABFAAGAGFAHGAAFABGAKFACRAADACRAAT",
    "AAEAAFCJIGJKGFRAAMADRACFAAbAAAFAJIGbIEAADAcAEHEEABFAbHEAAFAAEFcREKbEEBCFADGABFACGEBGAAFAF",
    "GACFEAVDBRAJIAbDECEELbREEZEGJIAAKDbHVAWEABFABGAAFCBRAcAEAAGAAFAAGAGFBAFAAGAAFABGAHFAFGAJF",
    "CAFAJIGJIGGRAADAFRCNFAAHAbEFCLFUDFAAGAbUEAAFAAGAEFAAGAAFAEGAAFABGAHEBBRAJIAGRAJVAIFAIVACR",
    "ABFAAGAbDEAAGADFABGABFAAGACFABEAJIAbREAAFAAGABFACGAAFAAGACFABGIDRAbJEAHGAHFABGABFDERAJIDC",
    "EAJIAbDEAFDABRAIBAAAAABFbQACCAAHRICFAARAMFAAGAGFADEAAFAFEAAFABEAAGABFAAEFbRBAcKDAMBAADAbH",
    "BAbKDAcLFAAAAABAAAAABAAAAABAAAAABAAAAABAAAAABAAAAABAAAAABAAAAABAAAAABAAAAABAAAAABAAAAABAA",
    "AAABAAAAABAAAAABAAAAABAAAAABAAAAABAAAAABAAAAABAAAAABAAAAABAAAAABAAAAABAAAAABAAAAABAAAAABA",
    "AAAABAAAAABAAAAABAAAAABAAAAABAAAAABAAAAABAAAAABAAAAABAAAAABAAAAABAAAAABAAAAABAAAAABAAAAAB",
    "AAAAABAAAAABAAAAABAAAAABAAAAABAAAAABAAAAABAAAAABAAAAABAAAAABAAAAABAAAAABAAAAABAAAAABAAAAA",
    "BAAAAABAAAAABAAAAABAAAAABAAAAABAAAAABAAAAABAAAAABAAAAABAAAAABAAAAABAAAAABAAAAABAAAAABAAAA",
    "ABAAAAABAAAAIBAAAAABAAAAABAAAAABAAAAABAAAAABAAAAABAAAAABAAAAABAAAAABAAAAABAAAAABAAAAABAAA",
    "AABAAAAABAAAAABAAAAABAAAAABAAAAABAAAAABAAAAABAAAAABAAAAABAAAAABAAAAABAAAAABAAAAABAAAAABAA",
    "AAABAAAAABAAAAABAAAAABAAAAABAAAAABAAAAABAAAAABAAAAABAAAAABAAAAABAAAAABAAAAABAAAAABAAAAABA",
    "AAAABAAAAABAAAAABAAAAABAAAAABAAAAABAAAAIBAHAAFBCFACHBAHAAHBAHAAFBCFACHBBAABAABAABAAAHBAHA",
    "ANBCHBAHCAHBAHCAHBAHCAEBBBBADAAACAAUAABACUACBBBBADAAACACUADBCBBADABCUAHBAEAACUCCBBBBADAAA",
    "CABUBKWAEbAAFMABRAAPAAQAANABPAAQAANAAPAHRAAXAAYAEbAAAWAIRAAPAAQADRABLACRAASAANAAOAKRAASAA",
    "RAALAJRAAWAEbABJbAAAKAADCFKACSAANAAOAADAJKACSAANAAOBMDDbHTOMFADHAAFACHALFPBVAAAADVAAAABVA",
    "ABACAABBACAAABAAVAAAABVAASAEAAFVAAAAAVAAAAAVAAAAAVADAAAVAABADAAABADEAABABVABBABAAESAAAADB",
    "AAVAASABVAABAAVAPKAbIJAAAAABADJAAKABVEESAEVABSADVAASABVAASABVAASAGVAASAbEVABSABVAASAAVAAS",
    "AbEVAkHSAHVAANAAOAANAAOATVABSAGVAANAAOAdCVAASAbDVAYSAbNVAFSAcTVWKVVcHKAcZVAVKAhAVAASAIVAA",
    "SAcBVAHSAeGVAASAjNVAANAAOAANAAOAANAAOAANAAOAANAAOAANAAOAANAAOAbDKAbRVAESAANAAOAbESAANAAOA",
    "ANAAOAANAAOAANAAOAANAAOAPSAjVVAfASAANAAOAANAAOAANAAOAANAAOAANAAOAANAAOAANAAOAANAAOAANAAOA",
    "ANAAOAANAAOAcKSAANAAOAANAAOAbFSAANAAOAjXSAbVVAUSABVAFSAbMVCfHVAbVAAbVBAAAAABACAABBAAAAABA",
    "AAAABAAAAABADAAABAAAABBAAAAFBABDACAAABAAAAABAAAAABAAAAABAAAAABAAAAABAAAAABAAAAABAAAAABAAA",
    "AABAAAAABAAAAABAAAAABAAAAABAAAAABAAAAABAAAAABAAAAABAAAAABAAAAABAAAAABAAAAABAAAAABAAAAABAA",
    "AAABAAAAABAAAAABAAAAABAAAAABAAAAABAAAAABAAAAABAAAAABAAAAABAAAAABAAAAABAAAAABAAAAABAAAAABA",
    "AAAABAAAAABAAAAABAAAAABAAAAABAAAAABAAAAABAAAAABAAAAABAAAAABAAAABBAFVAAAAABAAAAABACFAAAAAB",
    "FDRAAKABRAbLBBABFABCcDEHADAAROAFAWEJGEBGEBGEBGEBGEBGEBGEBGEBbFFABRAAPAAQAAPAAQACRAAPAAQAA",
    "RAAPAAQAIRAAMABRAAMAARAAPAAQABRAAPAAQAANAAOAANAAOAANAAOAANAAOAERAADAJRABMADRAAMAARAANAMRA",
    "BVACRAANAAOAANAAOAANAAOAANAAOAAMbIZVBdKVMiFVbAPVAAWACRAAVAADAAEAAJAANAAOAANAAOAANAAOAANAA",
    "OAANAAOABVAANAAOAANAAOAANAAOAANAAOAAMAANABOAAVAIJADFABGAAMAEDABVACJAADAAEAARABVBdHECBFABU",
    "ABDAAEAAMAdLEAARACDAAEFbQEBdPEBBVADKAJVAbFEAbLVJAVAPEAbEVBJKAbDVAHKAAVAOKAbFVAJKAbMVAOKAm",
    "HVAjtNEAcLVAbfcEEAADAbrYEDcCVJbNEAFDABRAkHEAADACRAPEAJIABEUAAAABAAAAABAAAAABAAAAABAAAAABA",
    "AAAABAAAAABAAAAABAAAAABAAAAABAAAAABAAAAABAAAAABAAAAABAAAAABAAAAABAAAAABAAAAABAAAAABAAAAAB",
    "AAAAABAAAAABAAAAABAAEAAFACHAARAJFAARAADAAAAABAAAAABAAAAABAAAAABAAAAABAAAAABAAAAABAAAAABAA",
    "AAABAAAAABAAAAABAAAAABAAAAABAAAAABABDABFAcREAJJABFAFRIWUAIDABUAAAAABAAAAABAAAAABAAAAABAAA",
    "AABAAAAABAAAACBAAAAABAAAAABAAAAABAAAAABAAAAABAAAAABAAAAABAAAAABAAAAABAAAAABAAAAABAAAAABAA",
    "AAABAAAAABAAAAABAAAAABAAAAABAAAAABAAAAABAAAAABAAAAABAAAAABAAAAABAAAAABAAAAABAAAAABAAAAABA",
    "AAAABAAAAABAAAAABAAAAABAADAHBAAAAABAAAAABABAAABAAAAABAAAAABAAAAABAAAAABAADABUAAAAABAAAAAB",
    "AAEAAAAABAAAACBAAAAABAAAAABAAAAABAAAAABAAAAABAAAAABAAAAABAAAAABAAAAABAAAAABAEAAABAEAAABAA",
    "AAABAAAAABAAAAABAAAAABAAAAABAAAAABAAAAABADAAABAAAAABABAAABAAAAABAAAAABAAAAABAAAAABAAAAABA",
    "AAAABAAAAABAAAUDDAAAAABAAEABDAABAGEAAFACEAAFADEAAFAWEABGABFAAGADVAAFDFKABVAATAAVGbZEADRIB",
    "GAbXEAPGABFIBRAJIGRFAFEACRAAEAARABEAAFAJIAbBEAHFABRAWEAKFABGLARAbCEDCFAAGAbUEAAFABGADFABG",
    "ABFACGAMRBADAJIEBRAEEAAFAADAIEAJIAEEBbOEAFFABGABFABGABFJCEAAFAHEAAFAAGCJICDRAPEAADAFEACVA",
    "AEAAGAAFAAGAbXEAAFAAEACFABEABFAEEABFAAEAAFAAEYBEAADABRAKEAAGABFABGABRAAEABDAAGAAFKFECFECF",
    "EJGEBGEBbQBAAUADDAIBAADABUEdBBAbIEABGAAFABGAAFABGAARAAGAAFCJIGqnREMWEEbWEEdaTbBAjmDbCAoBE",
    "CeBEbMGBMEBFAEAAFAJEAASAMEBEEBAEBBEBBEBeDEAQUAPVAnYEAAOAANAPVAcLEABVAcBEAHVbGLEAATACVAPFA",
    "GRAANAAOAARGPFAARABMABLAANAAOAANAAOAANAAOAANAAOAANAAOAANAAOAANAAOAANAAOABRAANAAOADRACLACR",
    "BDRAAMAANAAOAANAAOAANAAOACRAASAAMACSBARAATABREEEBfEECAbABCRAATACRAANAAOAARAASAARAAMABRAJI",
    "ABRACSABRAZAAANAARAAOAAUAALAAUAZBAANAASAAOAASAANAAOAARAANAAOABRAJEAADAbSEABDAbEEDFECFECFE",
    "CCEDBTAASAAUAAVABTBAVADSABVKCbAABVCLEBZEBSEBBEBOECNEbIeSEFCREbSKDIVAcAJADKAQVABKACVBMVDAV",
    "bVbSVAAFfAbCEDbWEPAFAbAKEbFEADKJTEAAJAHEAAJFbLEAEFFbDEBARAbJEEHEAARAEJbQbNAAbNBAcZECJIGbJ",
    "AEbJBEbNEIbZELARAKABOABGABBABKBBOBBGBBBBDbZEMlYEJVEKHEYFDBbPDBIDcRFECAEBbREBBEDAECWEBARAH",
    "KAWEABVAGKAbEEIIKbWSEBBEFEKAVEAFKDARAZEFARAZEbMcDEEBKABEAPKCbTKAAEACFBBFFDFADEBCEBbCECCFE",
    "AFAIKHIRHbCEABKAARAbCEACKbGHEAAVAbBEABFEEKAGRJcBEDGRAVECHKASEFHKAREHDRMGKdCcUEcDbYANbYBHF",
    "KAbJEADFIJIGJIADEAADAAEAVADEFAAMAADAVBIBSiAbEKBbPEBBFAAMCBEQCEAADABEIARAHVbHFFAbCEAJKAAEI",
    "VEAKFADKAERWREADFADRbMUEAGKUWEJAGAAFAAGAcAEAOFAGRETKAJIAAFABEABFAAEJCFAAGAbSEACGADFABGABF",
    "ABRAAbAADRAAFKAbACYEHJIGCFAbJEAEFAAGAHFBJIADRAAEABGAAEIbIEAAFABRAAEJBFAAGAbVEACGAIFABGADE",
    "ADRADFAARAAGAAFAJIAAEAARAAEACRBTKLREBYEACGACFABGAAFAAGABFAFRAAFABEAAFcKGEBAEBDEBOEBJEAARG",
    "bUEAAFACGAHFFJIGBFABGBHECBECVEBGEBBEBEEBBFAAEABGAAFADGCBGCCGCAEGAGFEEABGCGFDEFLJEBAECAEBb",
    "LEBAEACGAFFBAGCAGBDGBBGAAFAAGAAFAAEAAFAAEABRBBRIBFbDcAEACGAHFABGACFAAGAAFADEAERAJIABRBARA",
    "AFACEbEbVEACGAFFAAGAAFADGABFAAGABFABEAARAAEIJIgKbUEACGADFCDGABFAAGABFAWRADEABFbIbVEACGAHF",
    "ABGAAFAAGABFACRAAELJIGMRTbQEAAFAAGAAFABGAFFAAGAAFAAEAARGJIGTIbCbAECAFAAGAAFABGADFAAGAEFEJ",
    "IABKACRAAVAGEhDbREACGAIFAAGABFAARdWbFAAbFBAJIAIKMHECAECHEBBEBXEAFGBBGCBFAAGAAFAAEAAGAAEAA",
    "GAAFACRJJIcSHECbMEACGADFCBFADGAAFAAEAARAAEAAGbBAEAJFAbNEAFFAAGAAEADFAHRAAFIAEAFFABGACFAbT",
    "EAMFAAGABFACRAAEAERNcUEHJRdIAFAAGACFAAGAAFAAGdKbGEAAROJIGIEBbKEAAGAGFBFFAAGAAFAAEAERKJIAS",
    "KDBRAbDECVFBAGAGFAAGABFAAGABFcVGEBBEBbLEAFFDAFBBFBGFAAEAAFIJIGFEBBEBbFEAEGBBFBBGAAFAAGAAF",
    "AAEHJIGbOEAADABEEJIjMSEABFABGABRHBFAAEAAGAMEBbHEABGAEFDBGAAFAAGAAFAMRAJIAAFdHAEPUKAHVADTA",
    "QVNARAbjLEdYeGJBERLhNEdxKdSEABRNbpFEAPbAAAFAFEAOFKfxQEFwKEkdDbDEALFACGACFAJIcoSvWEHbEEBJI",
    "EBRAdAEBJIGbDECEFAARKbVEAGFAERADVADDAARAAVKJIBGKBUEFSEqQCDAbNEABDACRAJIhQbFAAbFBAWKADRFYA",
    "CYBbScWEEAFAAEAcCGHDFAMDcMBDAARAADAAFLBGABDACJJkxXEbPbFEdTeKEmwRDDBGDBBDBlEEPAEbDCECAEODE",
    "IpFEdkUeCEFMEDIEHJECAVABFAARADbAfvGjFVAJIACVDqTVGWVPPVAASPbTFCWFJeLVcIjLVKbMVCcHVABGACFAC",
    "VAFGAHbAAHFABVAGFAbDVADFAcIVVcNVACFAAVeSTKMTKMdIVJYKfFZAAZBAZAAGBBRBAZAAZBAAABBACAACBACDA",
    "BHAADBBABBGBBKBAZAAZBABABDACHABGABZBABABDABEABAADGABZBAZAAZBAZAAZBAZAAZBAZAAZBAZAAZBAZAAb",
    "BBCYAAASAYBAASAFBAYAAASAYBAASAFBAYAAASAYBAASAFBAYAAASAYBAASAFBAYAAASAYBAASAFBAAAAABCbXIAt",
    "RVAcCFADVAbXFAHVAAFANVAAFABVAERPEFBOFbqMJBAAEATBGFBiFGFBQFCGFBBFBEFFcJDbHAFeIbSEDGFAGDCJI",
    "EAEAAVmIbDEAAFRbREADFAJIFATrWbAEAADADFAJIiGbDEABFAAEAJIEARhKbEEBCEAAFABEAAFAGEABFAEEAAFIA",
    "EAADiQGEBDEBBEBOEBhOECIKAGFbPbHAAbHBAGFAADEJIEBRbeFcGKAAVACKAATADKcYbSKAAVAOKhMDEBbAEBBEB",
    "AECAEBJEBDEBAEBAEGAEEAEBAEBAEBCEBBEBAECAEBAEBAEBAEBAEBBEBAECDEBGEBDEBDEBAEBJEBQEFCEBEEBQE",
    "cABSkKbRVEdVVMOVCOVBOVBbKVKMKAgEVcEbCVNbRVEIVHBVOFVfYjQVAEUAbcAVDQVDMVDiJVGLVEAVPLVEcDVIJ",
    "VGbNVIbDVCLVEBVOISbNnFVINVCMVDKVDcEVBAVEPVCLVEJVHfQVBdNVAJIAAVbnPclfBEbGgmNECioBEClbKEPxX",
    "EdqWuVEcfYhhYEFmoNEbogoDAbAbEdRbAeYjFFdsfOdsyNbCCdsyNbC"])

/-- The category of a code point, none for an unassigned one. -/
def of? (n : Nat) : Option Category := (numbered.find? n).bind fun k => all[k]?

/-- The categories that a name stands for, none standing for the unassigned code points. Names are
read in lower case and without separators. -/
def named? (name : String) : Option (List (Option Category)) :=
  match name with
  | "lu" | "uppercaseletter" => some [some .uppercaseLetter]
  | "ll" | "lowercaseletter" => some [some .lowercaseLetter]
  | "lt" | "titlecaseletter" => some [some .titlecaseLetter]
  | "lm" | "modifierletter" => some [some .modifierLetter]
  | "lo" | "otherletter" => some [some .otherLetter]
  | "mn" | "nonspacingmark" => some [some .nonspacingMark]
  | "mc" | "spacingmark" => some [some .spacingMark]
  | "me" | "enclosingmark" => some [some .enclosingMark]
  | "nd" | "decimalnumber" | "digit" => some [some .decimalNumber]
  | "nl" | "letternumber" => some [some .letterNumber]
  | "no" | "othernumber" => some [some .otherNumber]
  | "pc" | "connectorpunctuation" => some [some .connectorPunctuation]
  | "pd" | "dashpunctuation" => some [some .dashPunctuation]
  | "ps" | "openpunctuation" => some [some .openPunctuation]
  | "pe" | "closepunctuation" => some [some .closePunctuation]
  | "pi" | "initialpunctuation" => some [some .initialPunctuation]
  | "pf" | "finalpunctuation" => some [some .finalPunctuation]
  | "po" | "otherpunctuation" => some [some .otherPunctuation]
  | "sm" | "mathsymbol" => some [some .mathSymbol]
  | "sc" | "currencysymbol" => some [some .currencySymbol]
  | "sk" | "modifiersymbol" => some [some .modifierSymbol]
  | "so" | "othersymbol" => some [some .otherSymbol]
  | "zs" | "spaceseparator" => some [some .spaceSeparator]
  | "zl" | "lineseparator" => some [some .lineSeparator]
  | "zp" | "paragraphseparator" => some [some .paragraphSeparator]
  | "cc" | "control" | "cntrl" => some [some .control]
  | "cf" | "format" => some [some .format]
  | "cs" | "surrogate" => some [some .surrogate]
  | "co" | "privateuse" => some [some .privateUse]
  | "cn" | "unassigned" => some [none]
  | "l" | "letter" =>
    some [some .uppercaseLetter, some .lowercaseLetter, some .titlecaseLetter,
      some .modifierLetter, some .otherLetter]
  | "lc" | "casedletter" =>
    some [some .uppercaseLetter, some .lowercaseLetter, some .titlecaseLetter]
  | "m" | "mark" | "combiningmark" =>
    some [some .nonspacingMark, some .spacingMark, some .enclosingMark]
  | "n" | "number" =>
    some [some .decimalNumber, some .letterNumber, some .otherNumber]
  | "p" | "punctuation" | "punct" =>
    some [some .connectorPunctuation, some .dashPunctuation, some .openPunctuation,
      some .closePunctuation, some .initialPunctuation, some .finalPunctuation,
      some .otherPunctuation]
  | "s" | "symbol" =>
    some [some .mathSymbol, some .currencySymbol, some .modifierSymbol, some .otherSymbol]
  | "z" | "separator" =>
    some [some .spaceSeparator, some .lineSeparator, some .paragraphSeparator]
  | "c" | "other" =>
    some [some .control, some .format, some .surrogate, some .privateUse, none]
  | _ => none

/-- The code points of a category. -/
def ranges (c : Category) : List Range := numbered.ranges fun k => all[k]? == some c

/-- The assigned code points. -/
def assigned : List Range := numbered.ranges fun _ => true

end Category

end BrowserShell.Unicode
