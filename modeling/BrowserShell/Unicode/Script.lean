import BrowserShell.Unicode.Table

/-!
# Scripts

The code points of every script, and those that a script uses together with others.
`Script.find?` and `Script.named?` take a script's short or long name, in lower case and without
separators.
-/

namespace BrowserShell.Unicode.Script

/-- A script: its names, the code points of its own, and the code points it shares with other
scripts or, for the two scripts of shared characters, gives up to them. -/
structure Entry where
  /-- The names of the script. -/
  names : List String
  /-- The code points whose script it is. -/
  own : String
  /-- The code points that it uses besides. -/
  more : String
  /-- The code points of its own that are used by particular other scripts only. -/
  less : String

/-- The table of the scripts. -/
def table : List Entry := [
  ⟨["adlm", "adlam"],
    "hdeUcXEJEB",
    "ciHAbGAjwOAfhHA",
    ""⟩,
  ⟨["aghb", "caucasianalbanian"],
    "duxSbZLA",
    "bdSAbSAbSA",
    ""⟩,
  ⟨["ahom"],
    "ebrCbACOEW",
    "",
    ""⟩,
  ⟨["arab", "arabic"],
    (String.join [
      "chCEBFBNBCBbFBJLZBeDBbHdCbVjGbHFcWBbCdntWsZCfNbGPeIEBfEfvNbEcPFIIbHFdglSDBbABBBACABJBDB",
      "ABAGAEABABABCBBBACABABABABABBBACDBGBDBDBABJBQFCBEBQcAB"]),
    "chOAOADAbGAKKbAAjuSAfhHAdakABcdKbB",
    ""⟩,
  ⟨["armi", "imperialaramaic"],
    "dwbWVBI",
    "",
    ""⟩,
  ⟨["armn", "armenian"],
    "bzDbLCbXCCdozJE",
    "bdWA",
    ""⟩,
  ⟨["avst", "avestan"],
    "dxcYcBDG",
    "hBArfSB",
    ""⟩,
  ⟨["bali", "balinese"],
    "kfWcYBbX",
    "",
    ""⟩,
  ⟨["bamu", "bamum"],
    "clcQdJcvcQvW",
    "",
    ""⟩,
  ⟨["bass", "bassavah"],
    "fhkIbDCF",
    "",
    ""⟩,
  ⟨["batk", "batak"],
    "knGbZID",
    "",
    ""⟩,
  ⟨["beng", "bengali"],
    "dpODBHCBCVBGBADDCICBCDIAEBBECY",
    "baYAcmUBRBhjEABACBBAIAIACAEACCcbaFA",
    ""⟩,
  ⟨["berf", "beriaerfe"],
    "fivWYCY",
    "",
    ""⟩,
  ⟨["bhks", "bhaiksuki"],
    "edoIIBbSBNKbC",
    "",
    ""⟩,
  ⟨["bopo", "bopomofo"],
    "bcSBrlXbQeIbF",
    "bbJABCNArcPCEJBMKDCAGAhNAcztHBkWE",
    ""⟩,
  ⟨["brah", "brahmi"],
    "dzaEcZEbJJA",
    "",
    ""⟩,
  ⟨["brai", "braille"],
    "pdWjV",
    "",
    ""⟩,
  ⟨["bugi", "buginese"],
    "jwAbBCB",
    "cmhZA",
    ""⟩,
  ⟨["buhd", "buhid"],
    "iuYT",
    "iuNB",
    ""⟩,
  ⟨["cakm", "chakma"],
    "dzkAcABR",
    "dtMJckEJ",
    ""⟩,
  ⟨["cans", "canadianaboriginal"],
    "hoYyPvOcRdtpQP",
    "",
    ""⟩,
  ⟨["cari", "carian"],
    "dtyMbW",
    "hBAlzMACAfgDA",
    ""⟩,
  ⟨["cham"],
    "cmjWcCJNCJCD",
    "",
    ""⟩,
  ⟨["cher", "cherokee"],
    "hlGdHCFcfjEdB",
    "bdOCBAGBWBLB",
    ""⟩,
  ⟨["chrs", "chorasmian"],
    "dyxCbB",
    "",
    ""⟩,
  ⟨["copt", "coptic", "qaac"],
    "bmGNpjKeLFG",
    "hBAwMADBBAeEBqdTAdcpCbB",
    ""⟩,
  ⟨["cpmn", "cyprominoan"],
    "ekyYdU",
    "dtiMB",
    ""⟩,
  ⟨["cprt", "cypriot"],
    "dvzKFCABbRBBDACA",
    "dtiMCEbSDI",
    ""⟩,
  ⟨["cyrl", "cyrillic"],
    "bnKfCCgMivOKgEAcYAgfNbFbtoAdRbheCBdhpGcJbHA",
    "baYAcPCBABABACAFAoHBjqNAgeKA",
    ""⟩,
  ⟨["deva", "devanagari"],
    "dkQdCEOCZcijGbFbreMJ",
    "baYAcmUBRBhjEbMBBbnAAbzfRJ",
    ""⟩,
  ⟨["diak", "divesakuru"],
    "eckUGCACHBBBbDBBCLJJ",
    "",
    ""⟩,
  ⟨["dogr", "dogra"],
    "ecaYcH",
    "doMLcidCJ",
    ""⟩,
  ⟨["dsrt", "deseret"],
    "dumAdB",
    "",
    ""⟩,
  ⟨["dupl", "duployan"],
    "gmdSeCFMDIHJCD",
    "hBAwTBBAYBqiHAfuwPD",
    ""⟩,
  ⟨["egyp", "egyptianhieroglyphs"],
    "eldGbqRKfxQ",
    "",
    ""⟩,
  ⟨["elba", "elbasan"],
    "duvWbN",
    "hBAwRA",
    ""⟩,
  ⟨["elym", "elymaic"],
    "dyyYW",
    "",
    ""⟩,
  ⟨["ethi", "ethiopic"],
    (String.join [
      "gvGcUBDCGBABDCbOBDCbGBDCGBABDCOBcEBDCcOCbFDZjvAWJGBGBGBGBGBGBGBGbvkCFCFCFJGBGepyFGBDBBB",
      "O"]),
    "beCA",
    ""⟩,
  ⟨["gara", "garay"],
    "dxzCbLDbCIB",
    "chOAOADA",
    ""⟩,
  ⟨["geor", "georgian"],
    "ghSbLBAFACbQBDejWbQCCgeAbLBAFA",
    "hBAbvLAeiRAfvIAfgGA",
    ""⟩,
  ⟨["glag", "glagolitic"],
    "qrGdRgizGGBQCGBBBE",
    "hBAwPABAoSACAjXAeiRAfvIAfgYAbtnFA",
    ""⟩,
  ⟨["gong", "gunjalagondi"],
    "eebWFBBBbKBBBFHJ",
    "hBAdhKB",
    ""⟩,
  ⟨["gonm", "masaramgondi"],
    "edyEGBBBbRDABBBIIJ",
    "doMB",
    ""⟩,
  ⟨["goth", "gothic"],
    "dueAbA",
    "hBAwQBCAbOA",
    ""⟩,
  ⟨["gran", "grantha"],
    "eadSDBHCBCVBGBBBECICBCCCAGAFGCGDE",
    "dnTBRByQNgkAABBbECDBbnAAdntQAetWBBA",
    ""⟩,
  ⟨["grek", "greek"],
    (String.join [
      "bhWDBCCDBAEABABCBABTBcKOPjnQEbYEEEdGAmIVCFCbLCFCHBABABABbECcABOBNCFBSCCBIlJAcajEAbgnIdA",
      "RAdaxRcR"]),
    "hBAwMBCABABAKAbUACAbUAjyXBzRA",
    ""⟩,
  ⟨["gujr", "gujarati"],
    "dzLCBIBCBVBGBBBECJBCBCCAPDCLHG",
    "dnTBRBcidMJ",
    ""⟩,
  ⟨["gukh", "gurungkhema"],
    "fdrScF",
    "doNA",
    ""⟩,
  ⟨["guru", "gurmukhi"],
    "duNCBFEBCVBGBBBBBBCABEEBCCDAHDBAHQ",
    "dnTBRBcidMJ",
    ""⟩,
  ⟨["hang", "hangul"],
    "glKjVllEBjXdPeJbEcNbEbtaNbCyTqnRMWEbWpaIbEDFCFCFCC",
    "seRCEJBMQAGAhNAcztHBkWE",
    ""⟩,
  ⟨["hani", "han"],
    "rpWZBdKMiFbVABAZIODblCjtNcMbfbJbhsIoBCeBbsiIBMGccoFclfBbGgmNCioBClbKPxXdqWuVcfYhhYFmoN",
    "hBArwYPBCCABJBMKDCAGAEDhFAfSPbGbLJAbWbNcEbWPLbZAdKYKEdSbEbroJHbhaZBkWEdchERlrYB",
    ""⟩,
  ⟨["hano", "hanunoo"],
    "itSU",
    "iuNB",
    ""⟩,
  ⟨["hatr", "hatran"],
    "dwiASBBFE",
    "",
    ""⟩,
  ⟨["hebr", "hebrew"],
    "ccVcCIbAEFdovWZBEBABBBBBJ",
    "bdVB",
    ""⟩,
  ⟨["hira", "hiragana"],
    "shDdHGCfpeVlASAbDCymVA",
    "seRCEJBMQFBAEBdNDDAdMBcztGBkWEKAbTB",
    ""⟩,
  ⟨["hluw", "anatolianhieroglyphs"],
    "essEwK",
    "",
    ""⟩,
  ⟨["hmng", "pahawhhmong"],
    "fhmEcRKJBGBUFS",
    "",
    ""⟩,
  ⟨["hmnp", "nyiakengpuachuehmong"],
    "haeAbSDNCJEB",
    "",
    ""⟩,
  ⟨["hung", "oldhungarian"],
    "dxrSbYNbYHF",
    "mgOACAfgDAPA",
    ""⟩,
  ⟨["ital", "olditalic"],
    "ducEbJJC",
    "",
    ""⟩,
  ⟨["java", "javanese"],
    "cmeYcZCJEB",
    "cmhZA",
    ""⟩,
  ⟨["kali", "kayahli"],
    "cmaAbTBA",
    "cmbUA",
    ""⟩,
  ⟨["kana", "katakana"],
    "skVdLCCjGPiAbUBdJczhEJBbScouCDBGBBBAlBCbYAOD",
    "bdTAbDAqzTCEJBMQFBAEBdNDDAdMBcztGBkWEKAbTB",
    ""⟩,
  ⟨["kawi"],
    "eerWQBbODbC",
    "",
    ""⟩,
  ⟨["khar", "kharoshthi"],
    "dwtCDBBFHBCBbCCCEJHI",
    "",
    ""⟩,
  ⟨["khmr", "khmer"],
    "ixKdPCJGJsSbF",
    "",
    ""⟩,
  ⟨["khoj", "khojki"],
    "dztWRBbU",
    "edIJchoIJ",
    ""⟩,
  ⟨["kits", "khitansmallscript"],
    "fjiIAkgXsBbPA",
    "",
    ""⟩,
  ⟨["knda", "kannada"],
    "etCMBCBWBJBECIBCBDHBFCBDCJBC",
    "dnTBRBhjEABBGAXABAcasXF",
    ""⟩,
  ⟨["krai", "kiratrai"],
    "fiiIcF",
    "",
    ""⟩,
  ⟨["kthi", "kaithi"],
    "dzfCcOKA",
    "doOJnxXAbufEJ",
    ""⟩,
  ⟨["lana", "taitham"],
    "jxGcKBbCCKGJGN",
    "",
    ""⟩,
  ⟨["laoo", "lao"],
    "fmVBBABEBXBABWCEBABGBJCD",
    "",
    ""⟩,
  ⟨["latn", "latin"],
    (String.join [
      "cNZGZbVAPAFWBbEBrGbNEjxBbLGbWFDFMBcRcNjVoFANAQMfLBGAbBARbOecTbFbulMdXDdDUObfKbQBIBDbedQ",
      "GboKZGZdcFFBbPBIddnPbEGF"]),
    "hBAtWAKABCBAJABAbMOBBBAPCHBBBbMAFAEMkRBbvEBcxKAexWAvUAhKAezMAbtuMHvEA",
    ""⟩,
  ⟨["lepc", "lepcha"],
    "kpScDDODC",
    "",
    ""⟩,
  ⟨["limb", "limbu"],
    "jmEbEBLELEADL",
    "doNA",
    ""⟩,
  ⟨["lina", "lineara"],
    "dvfSlYJVKH",
    "dtiTbS",
    ""⟩,
  ⟨["linb", "linearb"],
    "dsyQLBZBSBBBOCNbIeS",
    "dtiMCEbSDI",
    ""⟩,
  ⟨["lisu"],
    "ckkUbVbumAA",
    "baYAQArdKB",
    ""⟩,
  ⟨["lyci", "lycian"],
    "dtxGbC",
    "mgOA",
    ""⟩,
  ⟨["lydi", "lydian"],
    "dwkMZFA",
    "hBArfTA",
    ""⟩,
  ⟨["mahj", "mahajani"],
    "dznCbM",
    "hBAdhKLcidCJ",
    ""⟩,
  ⟨["maka", "makasar"],
    "eeqQY",
    "",
    ""⟩,
  ⟨["mand", "mandaic"],
    "ddGbBCA",
    "cjOA",
    ""⟩,
  ⟨["mani", "manichaean"],
    "dxaMbMEL",
    "cjOA",
    ""⟩,
  ⟨["marc", "marchen"],
    "edsQbFCVBN",
    "",
    ""⟩,
  ⟨["medf", "medefaidrin"],
    "fisEdM",
    "",
    ""⟩,
  ⟨["mend", "mendekikakui"],
    "hcuYhOCP",
    "",
    ""⟩,
  ⟨["merc", "meroiticcursive"],
    "dwpKXETCbT",
    "",
    ""⟩,
  ⟨["mero", "meroitichieroglyphs"],
    "dwoEbF",
    "mgRA",
    ""⟩,
  ⟨["mlym", "malayalam"],
    "eyAMBCBbYBCBFEPCZ",
    "dnTBRBhjOAXAcasZC",
    ""⟩,
  ⟨["modi"],
    "ebhGcQLJ",
    "clsAJ",
    ""⟩,
  ⟨["mong", "mongolian"],
    "jcIBCABTGdKHbQdscBM",
    "jcKBBAdcJAfzTBFD",
    ""⟩,
  ⟨["mroo", "mro"],
    "fheUbEBJEB",
    "",
    ""⟩,
  ⟨["mtei", "meeteimayek"],
    "cmsMWhTbTCJ",
    "",
    ""⟩,
  ⟨["mult", "multani"],
    "dzyUGBABDBOBK",
    "dyKJ",
    ""⟩,
  ⟨["mymr", "myanmar"],
    "gbOgDcgaYbEdTbFbpaMT",
    "cmbUA",
    ""⟩,
  ⟨["nagm", "nagmundari"],
    "hbpObP",
    "",
    ""⟩,
  ⟨["nand", "nandinagari"],
    "ecqYHCbTCK",
    "dnTASBbiMJgbHAIAHAcasRF",
    ""⟩,
  ⟨["narb", "oldnortharabian"],
    "dwyAbF",
    "",
    ""⟩,
  ⟨["nbat", "nabataean"],
    "dweIbEII",
    "",
    ""⟩,
  ⟨["newa"],
    "eanOdNBE",
    "dnTBhkCABBJAGABABA",
    ""⟩,
  ⟨["nkoo", "nko"],
    "cyIcGCC",
    "chOAOADAdppEB",
    ""⟩,
  ⟨["nshu", "nushu"],
    "fjiFAyvMpF",
    "",
    ""⟩,
  ⟨["ogam", "ogham"],
    "inObC",
    "",
    ""⟩,
  ⟨["olck", "olchiki"],
    "ksUbV",
    "",
    ""⟩,
  ⟨["onao", "olonal"],
    "hbzKbQEA",
    "doMB",
    ""⟩,
  ⟨["orkh", "oldturkic"],
    "dxmUcU",
    "mgOAfgFA",
    ""⟩,
  ⟨["orya", "oriya"],
    "eeJCBHCBCVBGBBBECICBCCHCEBBECR",
    "dnTBRBhjOAXA",
    ""⟩,
  ⟨["osge", "osage"],
    "dusUbJEbJ",
    "bdPACAGAcYA",
    ""⟩,
  ⟨["osma", "osmanya"],
    "duqYbDCJ",
    "",
    ""⟩,
  ⟨["ougr", "olduyghur"],
    "dyuQZ",
    "cjOAdusVA",
    ""⟩,
  ⟨["palm", "palmyrene"],
    "dwdCbF",
    "",
    ""⟩,
  ⟨["pauc", "paucinhau"],
    "edcAcE",
    "",
    ""⟩,
  ⟨["perm", "oldpermic"],
    "dufGbQ",
    "hBAwMAFCKAoDA",
    ""⟩,
  ⟨["phag", "phagspa"],
    "clsQcD",
    "jcKBBAdcJAfzUA",
    ""⟩,
  ⟨["phli", "inscriptionalpahlavi"],
    "dxgQSFH",
    "",
    ""⟩,
  ⟨["phlp", "psalterpahlavi"],
    "dxhWRHDMG",
    "cjOA",
    ""⟩,
  ⟨["phnx", "phoenician"],
    "dwjGbBDA",
    "",
    ""⟩,
  ⟨["plrd", "miao"],
    "fizOcWEcEHQ",
    "",
    ""⟩,
  ⟨["prti", "inscriptionalparthian"],
    "dxfKVCH",
    "",
    ""⟩,
  ⟨["rjng", "rejang"],
    "cmbWbJLA",
    "",
    ""⟩,
  ⟨["rohg", "hanifirohingya"],
    "dxwQbNIJ",
    "chOAOADAbGAfRA",
    ""⟩,
  ⟨["runr", "runic"],
    "ioUcWDK",
    "irRC",
    ""⟩,
  ⟨["samr", "samaritan"],
    "daUbTCO",
    "rmVA",
    ""⟩,
  ⟨["sarb", "oldsoutharabian"],
    "dwwUbF",
    "",
    ""⟩,
  ⟨["saur", "saurashtra"],
    "clvCcRIL",
    "",
    ""⟩,
  ⟨["sgnw", "signwriting"],
    "gwtKzBPEBO",
    "",
    ""⟩,
  ⟨["shaw", "shavian"],
    "dupCbV",
    "hBA",
    ""⟩,
  ⟨["shrd", "sharada"],
    "dzoYdRdpOH",
    "dnTAhkFABACBCAJACAcatEFCA",
    ""⟩,
  ⟨["sidd", "siddham"],
    "ebcIcBCbL",
    "",
    ""⟩,
  ⟨["sidt", "sidetic"],
    "dwlSZ",
    "",
    ""⟩,
  ⟨["sind", "khudawadi"],
    "eaaQcGFJ",
    "doMBcidMJ",
    ""⟩,
  ⟨["sinh", "sinhala"],
    "fcZCBRDXBIBACGDAEFBABHGJCCdulGT",
    "doMBhkMA",
    ""⟩,
  ⟨["sogd", "sogdian"],
    "dysEbP",
    "cjOA",
    ""⟩,
  ⟨["sogo", "oldsogdian"],
    "dyqIbN",
    "",
    ""⟩,
  ⟨["sora", "sorasompeng"],
    "dziEYHJ",
    "",
    ""⟩,
  ⟨["soyo", "soyombo"],
    "ecxSdE",
    "",
    ""⟩,
  ⟨["sund", "sundanese"],
    "kkUcLjWH",
    "",
    ""⟩,
  ⟨["sunu", "sunuwar"],
    "edlWbHOJ",
    "bdOBBAJACAbCADA",
    ""⟩,
  ⟨["sylo", "sylotinagri"],
    "clqEbS",
    "doMBeYJ",
    ""⟩,
  ⟨["syrc", "syriac"],
    "cqYNBcHCCkMK",
    "bdRBCBBAYCHBBBbcCAOBCAbGAKKbAAixRABA",
    ""⟩,
  ⟨["tagb", "tagbanwa"],
    "iwEMBCBB",
    "iuNB",
    ""⟩,
  ⟨["takr", "takri"],
    "ebmEcFGJ",
    "doMBcidMJ",
    ""⟩,
  ⟨["tale", "taile"],
    "jpGbDCE",
    "bdOBFBDAezZJ",
    ""⟩,
  ⟨["talu", "newtailue"],
    "jrCbREZGKDB",
    "",
    ""⟩,
  ⟨["taml", "tamil"],
    "ejIBBFDCBDDBBABBDBDCDLEEDCBDCAGAOUealHbXNA",
    "dnTBRBhjOAcbbKAboeFABAcDB",
    ""⟩,
  ⟨["tang", "tangut"],
    "fjiEAbFkfVtSbEdTeK",
    "seAPtBA",
    ""⟩,
  ⟨["tavt", "taiviet"],
    "cmoUcOYE",
    "",
    ""⟩,
  ⟨["tayo", "taiyo"],
    "hciQbEBVIB",
    "",
    ""⟩,
  ⟨["telu", "telugu"],
    "eoEMBCBWBPCIBCBDHBBCBBCDCJHI",
    "dnTBRBhjJBBABAXA",
    ""⟩,
  ⟨["tfng", "tifinagh"],
    "rcYcDHBOA",
    "bdQABABDZA",
    ""⟩,
  ⟨["tglg", "tagalog"],
    "isMVJA",
    "iuNB",
    ""⟩,
  ⟨["thaa", "thaana"],
    "cvWbX",
    "chOAOBCAcMJdptGAKA",
    ""⟩,
  ⟨["thai"],
    "fhXcFFbB",
    "baYAbAAbRAbTA",
    ""⟩,
  ⟨["tibt", "tibetan"],
    "frScTBbJEbMBbJBOBGEB",
    "seYD",
    ""⟩,
  ⟨["tirh", "tirhuta"],
    "easMcTIJ",
    "dnTBRBhjJAMAPAcasZJ",
    ""⟩,
  ⟨["tnsa", "tangsa"],
    "fhgQdABJ",
    "",
    ""⟩,
  ⟨["todr", "todhri"],
    "dvdGbZ",
    "bdPACACAJABAcWA",
    ""⟩,
  ⟨["tols", "tolongsiki"],
    "eeeYbREJ",
    "",
    ""⟩,
  ⟨["toto"],
    "hatKbE",
    "baYA",
    ""⟩,
  ⟨["tutg", "tulutigalari"],
    "eaiQJBACABbLBJBACABDBJBBIB",
    "exAJgbQABAcasXFhFA",
    ""⟩,
  ⟨["ugar", "ugaritic"],
    "duhCbDBA",
    "",
    ""⟩,
  ⟨["vaii", "vai"],
    "ckmQlN",
    "",
    ""⟩,
  ⟨["vith", "vithkuqi"],
    "dvaEKBOBGBBBKBOBGBB",
    "",
    ""⟩,
  ⟨["wara", "warangciti"],
    "echCdEMA",
    "",
    ""⟩,
  ⟨["wcho", "wancho"],
    "havGcFFA",
    "",
    ""⟩,
  ⟨["xpeo", "oldpersian"],
    "duiIbJEN",
    "",
    ""⟩,
  ⟨["xsux", "cuneiform"],
    "efbSbjLdYeGBELhN",
    "",
    ""⟩,
  ⟨["yezi", "yezidi"],
    "dylKbPBCCB",
    "chOAOADAcMJ",
    ""⟩,
  ⟨["yiii", "yi"],
    "cipKbsUDcC",
    "seRBFJCHiPAdaeFE",
    ""⟩,
  ⟨["zanb", "zanabazarsquare"],
    "ecuQcT",
    "",
    ""⟩,
  ⟨["zinh", "inherited", "qaai"],
    (String.join [
      "bdOeHkRBrKKbAAbcIDgoXbTCLsQCBMBGEAGADBhQcLuEBhMbGftXDeDBczuJPQNblNAiSAgfAActcUbTCWuYCRH",
      "CGbEDbtlhIjF"]),
    "",
    "bdOOBBBAPCHBBBQACASAFAEMkRBrKKbAAbcIBhjXCBMBGEAGADBhQBcCABAbdDAftXDeDBdbqJAgfAA"⟩,
  ⟨["zyyy", "common"],
    (String.join [
      "AcMbAFbAbUBOBEXAbFArHbMFECTeMAJAGABAyNAGAOADAbGAgAAtWAeZBbvTApPDlEAcgLCcTBhVBBAbvHANAHD",
      "BFBCCAbdTLCdIBKDKBORbHcKbLBCCFBbABQbPCEzPWKVbjRjWyDCfHtSdPpMUBABYPHEDdNBDAdMBfRPbGbLJAb",
      "WcLbFdCbVAdKgLjtOcLbhsIbHdYCgJJjKAgEApFAOBbezQBiAJWbIBSBDfRABbFbAFbAKKAbTBcMGBGKEjYCEbS",
      "DIdCMbZbSiUbAcshWDfvGjSDqTGWPQdReLcIjLKbMCcJDQIBHbDEcIiFTMTMdIJYfFdGBcSBBCACBCDBLBABGBc",
      "MBDCHBGBbBBDBEBADGBnBClFCbXhtHcPcYcIbbEbREdVMOCOBOBbKKgRcEZBBNbREIHBOFfYblWDQDMDiJGLEAP",
      "LEcDIJGbNIbDCLEBOIbNnFINCMDKDcEBAEPCLEJHfQBdYbsuxAAbEdR"]),
    "",
    (String.join [
      "hBAtWAKABCBAJABAfYAzNAOADAbGAbeXBcwRAcgLCcTBhVBBAbvHANAHDBFBCCAbfOAbFAKACAffDAYBKAEABAq",
      "MPBCCABJBMQFBAEDdNBDAdMBfRPbGbLJAbWbNcEbWPLbZAdKYKEdSbEbroJHlKJjKAgEAbfpMBkBBkWEKAbTBnO",
      "CEbSDIqBbAcshWDipWRlrYB"])⟩]

/-- The entry of the script with this name. -/
def find? (name : String) : Option Entry := table.find? fun e => e.names.contains name

/-- The code points whose script has this name. -/
def named? (name : String) : Option (List Range) :=
  (find? name).map fun e => Range.ofText e.own

end BrowserShell.Unicode.Script
