import BrowserShell.Unicode.Table

/-!
# The mapping of characters in domain names

What becomes of each character of a domain name before its labels are checked: most stay, some are
dropped, some are replaced, and the rest may not occur.
-/

namespace BrowserShell.Unicode

/-- What becomes of a character of a domain name. -/
inductive DomainAction where
  /-- The character may not occur. -/
  | refuse
  /-- The character is dropped. -/
  | drop
  /-- The character is replaced by the one this far above it. -/
  | shift (offset : Int)
  /-- The character is replaced by these. -/
  | replace (chars : List Nat)
deriving Repr, Inhabited

/-- A distance, from the number that stores it: even for upward, odd for downward. -/
def signed (n : Nat) : Int := if n % 2 = 0 then n / 2 else -((n + 1) / 2 : Nat)

/-- The entries of a row: gap, further count and kind, then for kind 2 the distance and for a kind
above 3 as many characters as it exceeds 3. -/
def domainActionsFrom (start : Nat) :
    (fuel : Nat) → List Nat → List (Range × DomainAction)
  | fuel + 1, gap :: more :: kind :: rest =>
    let range : Range := ⟨start + gap, start + gap + more⟩
    match kind, rest with
    | 0, rest => (range, .refuse) :: domainActionsFrom (range.last + 1) fuel rest
    | 1, rest => (range, .drop) :: domainActionsFrom (range.last + 1) fuel rest
    | 2, far :: rest => (range, .shift (signed far)) :: domainActionsFrom (range.last + 1) fuel rest
    | kind, rest =>
      (range, .replace (rest.take (kind - 3))) ::
        domainActionsFrom (range.last + 1) fuel (rest.drop (kind - 3))
  | _, _ => []

/-- The characters that do not stay as they are. -/
def domainActions : RangeMap DomainAction :=
  let row := numbers
    (String.join [
      "cNZCcMbLAAAAAAAAAAAAAAAAAAAAAAAAAAAAAAAAAAAAAAAAAAAAAAAAAAAAAAAAAAAAAAAAAAAAAAAAAAAAAAA",
      "AAAAAAAAAAAAAAAAAACjVHAFbGbdWBACfPCABBAFbGbdSCBCjVAAFbGbdPAACchQCAFbGbfBAACkLAACfTBAGbX",
      "mfScAAAGbXmfSbYAAGbZmfScABWCcMBGCcMbHACCBACCBACCBACCBACCBACCBACCBACCBACCBACCBACCBACCBAC",
      "CBACCBACCBACCBACCBACCBACCBACCBACCBACCBACCBACCBAFeBbdVBBFeBeCAACCBACCCACCBACCBACCBBFeEhB",
      "AACCBACCBACCBACCBAFbaYeGAACCBACCBACCBACCBACCBACCBACCBACCBACCBACCBACCBACCBACCBACCBACCBAC",
      "CBACCBACCBACCBACCBACCBACCBACCBACjHAACCBACCBACCBACuPBACqEAACCBACCBACpWAACCBBCpUAACCCACgC",
      "AACpOAACpQAACCBACpUAACpYBACqGAACqCAACCDACqGAACqKBACqMAACCBACCBACCBACqUAACCBACqUCACCBACq",
      "UAACCBBCqSAACCBACCBACqWAACCDACCHCFdWoSACFeEeCACFeGeCAACCBACCBACCBACCBACCBACCBACCBACCCAC",
      "CBACCBACCBACCBACCBACCBACCBACCBACCCCFdWeSAACCBAChLAACeHAACCBACCBACCBACCBACCBACCBACCBACCB",
      "ACCBACCBACCBACCBACCBACCBACCBACCBACCBACCBACCBACCBACjZBACCBACCBACCBACCBACCBACCBACCBACCBAC",
      "CHACbfyKAACCBACmNAACbfyECACCBACoZAACfIAACfMAACCBACCBACCBACCBACCdTACbsXAACfTAACbsXAACbsJ",
      "AACeNAACeLAACeBAACbsHAACbsFbFAFbGbdUAAFbGbdVAAFbGbdYAAFbGbfCAAFbGbdRAAFbGbdZCACjPAACbwJ",
      "AACbvXAACbvPAACgBdNBCeXBACdRAAFbdWbdPAACiYJABbGACCBACCBACoJBACCBBAAAFbGbkRDACcmFAACiYAD",
      "AAAFbGbdPAAGbGbdWbdPAACcYAACcdJACCcWAAAAACeYAAAABCeWBQCcMAAAAICcMbJACQAACcHAACbXAACZAAC",
      "LAACRAACbDAACbRBACCBACCBACCBACCBACCBACCBACCBACCBACCBACCBACCBACCBACeDAACdRAACdPBACePAACe",
      "XBACCBACeDAACCCCCjZAPCgEAbFCcMbWACCBACCBACCBACCBACCBACCBACCBACCBACCBACCBACCBACCBACCBACC",
      "BACCBACCBACCJACCBACCBACCBACCBACCBACCBACCBACCBACCBACCBACCBACCBACCBACCBACCBACCBACCBACCBAC",
      "CBACCBACCBACCBACCBACCBACCBACCBACCBACbEAACCBACCBACCBACCBACCBACCBACCCACCBACCBACCBACCBACCB",
      "ACCBACCBACCBACCBACCBACCBACCBACCBACCBACCBACCBACCBACCBACCBACCBACCBACCBACCBACCBACCBACCBACC",
      "BACCBACCBACCBACCBACCBACCBACCBACCBACCBACCBACCBACCBACCBACCBACCBACCBACCBACCBACCBACCBACCBAA",
      "AbLCdSABAbUAFcbDccGDBADAAcDHAbBDAGQAWAAdKAFciPclOAAFcjWclOAAFcoTclOAAFcjYclOdWAAbWBAcHB",
      "AdXNAcHBAbXBAPAAbCBABAALEAbGGAcXAAeNAFdlLdmYAAFdlMdmYAAFdlNdmYAAFdlSdmYAAFdlXdmYAAFdlYd",
      "mYAAFdmHdmYAAFdmLdmYbKAAIBACBAWAAHAABCAEBAJBACBAEHABDAAAFdqVdrWAAFdqWdrWAAAAAFdrJdrWEBA",
      "ZBADAAGDACBAWAAHAABAFdwKdwUAAABAFdwQdwUAAACBABAAFDACBADCABGAAAFdvIdwUAAFdvJdwUAAFdvOdwU",
      "BAAAAFdwDdwUAGARJADAAJAADAAWAAHAACAAFBAKAADAADBABOAEBAMGAHAADAAIBACBAWAAHAACAAFBAJBACBA",
      "DGADDAAAFefPegQAAFefQegQAAAFBASJACAAGCADAAECACAABAACCACCADCAMDAFCADAAEBABFABNAVEANAADAA",
      "XAAQBAJAADAAEGACAADAACBAEBAKGAWAADAAXAAKAAFBAJAADAAEGACEADAAEBAKAADLANAADAAbZAADAAGDAQB",
      "AbAAADAASCAYAAJAABBAHCABDAGAABAAIFAKBADLAbYAFfkVfjUHDAbDbKACAABAAFAAYAABAAMAFfpTfoSKBAF",
      "AABAAHAAKBAAAFfoLfnTAAFfoLfoBCbFAMACBcCAFfuGfyTEAAEAFfuQfyTEAFfuVfyTEAFfvAfyTEAFfvFfyTM",
      "AFfuEfyRDDACAFfwBfwCBAFfwBfwEAAFfyOfwQAAGfyOfwBfwQAAFfyPfwQAAGfyPfwBfwQHAFfwBfwQRAFfxIf",
      "yTEAAEAFfxSfyTEAFfxXfyTEAFfyCfyTEAFfyHfyTMAFfxGfyRDAAPAANbKAgEbLCvmUAAAAACvmUAEAAACvmUA",
      "BAbSACcLdUBBiYAAEBAHAABAAEBAbPAAEBAbHAAEBAHAABAAEBAPAAcFAAEBAcPBAbGCAbAFAdIBAAFCPABAyQA",
      "AbCCAdLGAWIAYIAULANAADAACLAcABBbOBAKFAKFALEBKFAdLGAbREAcSJAbFAAMDAMDABCAbQBAFKAbSDAbAFA",
      "LCAcKBAcNAAbDBALFAKFAOBAbUBAMTAcZAAgKHAcICAPCAbZACskPAACskNAACsjVAACsjRABEbpYAACsjFAACs",
      "hJAACeaiWAACCBEAAbQCixJABAACCixJIHAbREAbSACvuZAACvkVAACvvBBBCvvBAACusFAHCvvBBACvvDAACun",
      "RAACvvFAACvvDABCvvBAACvuZAACvwTABCukTAACfFAACvwZABCvwXAACukNABCukLAACvxBBACvwXAACvwVAAC",
      "vfVAACvwVAACulPABCeTAACvxBABCvwVAACePAACukBAACvwZAACeFACCtlLABCtkDAACvyNAACvxXABCvxTABC",
      "tmDAACtlDABCtkVNACtcVbIACurHAACwdLAACurFAACvsTAACuqVAACwdNAACuqTAACuqRAACuqLACCuqHAACdJ",
      "AACumNAACuqHAACcVAACumPAACuqFAACuqJADCuqHAACuqDABCupLAACvgDABCupDAAClZABCupFAACweBACCup",
      "BAACtsNcMACCBACCBACCBACCBACCBACCBACCBACCBACCBACCBACCBACCBACCBACCBACCBACCBACCBACCBACCBAC",
      "CBACCBACCBACCBACCBACCBACCBACCBACCBACCBACCBACCBACCBACCBACCBACCBACCBACCBACCBACCBACCBACCBA",
      "CCBACCBACCBACCBACCBACCBACCBACCBACCBACCBACCBACCBACCBACCBACCBACCBACCBACCBACCBACCBACCBACCB",
      "ACCBACCBACCBACCBACCBACCBACCBACCBACCBACCBACCBACCFAFdTbbAAACeLCACwnTBACCBACCBACCBACCBACCB",
      "ACCBACCBACCBACCBACCBACCBACCBACCBACCBACCBACCBACCBACCBACCBACCBACCBACCBACCBACCBACCBACCBACC",
      "BACCBACCBACCBACCBACCBACCBACCBACCBACCBACCBACCBACCBACCBACCBACCBACCBACCBACCBACCBACCBACCJHC",
      "PGBAAFCPABAIHCPIHCPGBAAFCPABAIAAAACPAAAAACPAAAAACPAAAAACPIHCPBACvaVBACvaXBACvaZBACvbBBA",
      "CuyZBACuzBBACuzDABAAAFltGbkRAAFltHbkRAAFltIbkRAAFltJbkRAAFltKbkRAAFltLbkRAAFltMbkRAAFlt",
      "NbkRAAFltGbkRAAFltHbkRAAFltIbkRAAFltJbkRAAFltKbkRAAFltLbkRAAFltMbkRAAFltNbkRAAFluMbkRAA",
      "FluNbkRAAFluObkRAAFluPbkRAAFluQbkRAAFluRbkRAAFluSbkRAAFluTbkRAAFluMbkRAAFluNbkRAAFluObk",
      "RAAFluPbkRAAFluQbkRAAFluRbkRAAFluSbkRAAFluTbkRAAFlwYbkRAAFlwZbkRAAFlxAbkRAAFlxBbkRAAFlx",
      "CbkRAAFlxDbkRAAFlxEbkRAAFlxFbkRAAFlwYbkRAAFlwZbkRAAFlxAbkRAAFlxBbkRAAFlxCbkRAAFlxDbkRAA",
      "FlxEbkRAAFlxFbkRCAFlxObkRAAFbkJbkRAAFbkEbkRAAABAFmaGbkRABCPAACfRAACvgNAAFbkJbkRAAFbGbeH",
      "AACvfTAAFbGbeHAAFbGbgCAAGbGbdWbgCAAFlxSbkRAAFbkPbkRAAFbkGbkRAAABAFmaWbkRAACgPAACvhNAACg",
      "PAACvhPAAFbkPbkRAAGbGbeHbdOAAGbGbeHbdPAAGbGbeHbgCDACvkNABACBCPAAChRAACviTAAAAAGbGbeIbdO",
      "AAGbGbeIbdPAAGbGbeIbgCDACvjHEBCPAACiPAACvhRAACNAAGbGbdWbdOAAGbGbdWbdPAACxxLABAAAFlyAbkR",
      "AAFblHbkRAAFblMbkRAAABAFmcSbkRAACjVAACviVAACjRAACviVAAFblHbkRAAFbGbdPAAFbGbeIAAAAKEbGAA",
      "BCBABACBFAFbGbfNMCABGAAACyhHDAFmfAmfAAAGmfAmfAmfABAFmfDmfDAAGmfDmfDmfDEAFbHbHBAFbGbdTIA",
      "FcLcLAAFcLbHAAFbHcLNAHmfAmfAmfAmfAHACykZAEBAEAAFBAACylBAACygTABAAFCylBAACymFAACbfIAACyk",
      "ZABCymRAACyhLAJCymHAACynLAACbeCAACymFABCynXAAAAACyjTAACyjNAACyiVAACyiFAACwxHAACyjPADCyj",
      "LAACyjJABCyjFACAIAFeKeLZNAbHOAAAGdTbVdVAAGdTbVeLAACysJAAFgUdVBAGdVbVeHAAGdVbVeNAACxfZBA",
      "FgUdYAACysRADEeAAACyeHABEeBABEeEBACysZAAFeGeHCBCytDACEeKCAFeLeFAAGeMdXeEAAFeMeFBACytFBA",
      "CwgFBACytNBACyuVAACylNABCyvRBBEdXAACyvTAACcEAACyvJAACyvHADCutLAACywDBAGdYdTeQAACwiPABEb",
      "kLAACwiVAACqCEBEdWAACyxNABCyxHGAGbXmfScDAAGbXmfScFAAHbXmfSbXbWAAGbXmfSbZAAGbYmfSbZAAGbX",
      "mfScBAAGbYmfScBAAGbZmfScBAAGcAmfScBAAGbXmfScCAAGcBmfScCAAGbXmfScEAAGbZmfScEAAGcBmfScEAA",
      "GcDmfScEAAFbXmfSAACyzDAAFeBeBAAGeBeBeBAAFeBeOAACyyLAAFeOeBAAGeOeBeBAAHeOeBeBeBAAFeBeQAA",
      "CyyRAAFeQeBAAGeQeBeBAACyzVABCzaPAACyzZAACzaJAAFeBeBAAGeBeBeBAAFeBeOAACyzRAAFeOeBAAGeOeB",
      "eBAAHeOeBeBeBAAFeBeQAACyzXAAFeQeBAAGeQeBeBAACzbBABCzbVAACzbFDACCFAGbWmfSbZCDAgAAFmyLmyL",
      "AAGmyLmyLmyLBAFmyOmyOAAGmyOmyOmyOjOBCjtMjVVALUAAICbbkNAAFbXbWAAFbXbXAAFbXbYAAFbXbZAAFbX",
      "cAAAFbXcBAAFbXcCAAFbXcDAAFbXcEAAFbXcFAAFbYbWAAGbObXbPAAGbObYbPAAGbObZbPAAGbOcAbPAAGbOcB",
      "bPAAGbOcCbPAAGbOcDbPAAGbOcEbPAAGbOcFbPAAHbObXbWbPAAHbObXbXbPAAHbObXbYbPAAHbObXbZbPAAHbO",
      "bXcAbPAAHbObXcBbPAAHbObXcCbPAAHbObXcDbPAAHbObXcEbPAAHbObXcFbPAAHbObYbWbPATAAAGbOdTbPAAG",
      "bOdUbPAAGbOdVbPAAGbOdWbPAAGbOdXbPAAGbOdYbPAAGbOdZbPAAGbOeAbPAAGbOeBbPAAGbOeCbPAAGbOeDbP",
      "AAGbOeEbPAAGbOeFbPAAGbOeGbPAAGbOeHbPAAGbOeIbPAAGbOeJbPAAGbOeKbPAAGbOeLbPAAGbOeMbPAAGbOe",
      "NbPAAGbOeObPAAGbOePbPAAGbOeQbPAAGbOeRbPAAGbOeSbPAZCbbnLAZCbbpLAACbbvFbyNAHmyLmyLmyLmyLd",
      "ZAGcGcGcJAAFcJcJAAGcJcJcJdXAFqgBbfSfVBAfIbVCdSbWACCBACbfuJAAClhJAACbftDCACCBACCBACCBACb",
      "fxFAACbfuVAACbfxLAACbfxJBACCCACCGACbhjVAACbhiZABCbfzXAACCBACCBACCBACCBACCBACCBACCBACCBA",
      "CCBACCBACCBACCBACCBACCBACCBACCBACCBACCBACCBACCBACCBACCBACCBACCBACCBACCBACCBACCBACCBACCB",
      "ACCBACCBACCBACCBACCBACCBACCBACCBACCBACCBACCBACCBACCBACCBACCBACCBACCBACCBACCBACCIACCBACC",
      "EACCBEAbTAABEABBAcEGAAACbBBNAYIAHAAHAAHAAHAAHAAHAAHAAHAAeWbHAbAAAEACbuiUdFACdhiUALAAACx",
      "mMAACxpMAACxqMAACxrCAACxtAAACxwIAACxwUAACxyGAACyaEAACzxSAACbaaOAACbaaYAACbacQAACbaeCAAC",
      "bafQAACbajQAACbalEAACbalYAACbaxUAACbbeYAACbbhAAACbbhIAACbbjOAACbbkEAACbbmEAACbbnCAACbbo",
      "YAACbbsWAACbbuEAACbbwEAACbecGAACbehSAACbfrAAACbfsSAACbftGAACbfuAAACbfvIAACbgbCAACbhlSAA",
      "CbhpIAACbhyMAACbiaEAACbibOAACbidEAACbihGAACbihKAACbjjEAACbjjWAACbjkSAACbjlQAACbjuMAACbj",
      "vAAACbjvIAACbkeGAACbkeYAACbkfWAACbkgKAACbklAAACbkmGAACbknOAACbktQAACbmmGAACbmpSAACbmrGA",
      "ACbowCAACbowKAACbpcSAACbpdWAACbpeUAACbpgIAACbpjGAACbpjOAACbqeAAACbqfUAACbqiEAACbtiGAACb",
      "tnGAACbtoYAACbttIAACbtvCAACbtvSAACbtwEAACbuaCAACbuaKAACbucUAACbxhSAACbyqAAACbyqWAACbyrE",
      "AACbyrKAACbyrYAACbytGAACbytIAACbyzMAACbzqAAACbzqIAACcaqIAACcarAAACcauUAACcavGAACcavWAAC",
      "cawKAACcbdIAACcbdUAACcbvGAACcbvSAACcbzKAACccaQAACcceEAACccwIAACccwUAACccyAAACcdxCAACceg",
      "SAACcehCAACcevAAACcfbQAACcffCAACcgiCAACcgsGAACcikIAACcimIAACciqQAACciuMAACcizQAACcjaKAA",
      "CcjaUAACcjdGAACcjjAAACcjjSAACckkGAACckkSAACcklIAACcklYAACcknCAACckoEAACckoKAACckuKAACck",
      "uQAACckvAAACcnsKAACcnuQAACcpeQAACcpfMAACcphEAACcqcWAACcqdUAACcqjEAACcqmQAACcseEAACcsfGA",
      "ACcsgIAACcsiYAACcslSAACctaYAACctbUAACctgWAACctzWAACcucEAACcusEAACcutSAACcuuAAACcvkWAACc",
      "vyYAACcwiMAACcwiWAACcwjEAACczcYAACczdOAACczpMAACdabGAACdabKAACdaeYAACdamYAACdanWAACdaoC",
      "AACdaoOAACdawAAACdayOAACdayYAACdazYAACdbmSAACdbqOAACdbqUAACdceUAACdceYAACdcgIAACdczQAAC",
      "dddGAACdddSAACddjAAACddjSAACddjWAACddkOAACddmUAACderCAACdfvUAACdfwMAACdfzIAACdgaYAACdgb",
      "MAACdgcEAACdgcKAACdgfKAACdgfQAACdggWAACdghEAACdgiCAACdgkCAACdglEAACdglSAACdgqEAACdgrGAA",
      "CdgrMAbPAAACbkgTBACbkfVbZACcTBACbanYABCbaoCFAAdIBACAFbGskNAAFbGskOCAFsjWsjYdRAFslNsmIAE",
      "AbRAAABCyjXAACxwZAACyjZABCxwZACCykDAFCxxBAACyjBACCykRAACyiVAJCykTAUCyeTAABABCymJABCxyTA",
      "ACxyNAACxyLAACxyDAACxxXAACxxVAACymLAACxxRAACxxPABCymPAACymNABCymLAACymFAACymDAECymBAACy",
      "lXAACylRAACykZAACykNAACykFABCxxPACCyjPABCygJAACygFABCyfPAACyfNAACyeVAACyeRAAACACvnWAACv",
      "yOAACvoKAACbcgAAACvoIAACvqYAACvoGAACbzfEAACvuCAACvpCAACvnEAACbdyUAACbclWAACwbEcSJAQAGbO",
      "glKbPAAGbOglMbPAAGbOglNbPAAGbOglPbPAAGbOglQbPAAGbOglRbPAAGbOglTbPAAGbOglVbPAAGbOglWbPAA",
      "GbOglYbPAAGbOglZbPAAGbOgmAbPAAGbOgmBbPAAGbOgmCbPAAGbOcndObPAAGbOcowUbPAAGbOcptKbPAAGbOc",
      "rmQbPAAGbOcsjGbPAAGbOctfWbPAAGbOcuzCbPAAGbOcwsIbPAAGbOcxoYbPAAGbOcziEbPAAGbOdaeUbPAAGbO",
      "dbbKbPAAGbOdbyAbPAAGbOdcuQbPAAGbOcycYbPAAHbOcxaYcxtKbPAAHbOcxaYddiQbPAAAAAGbObdoAbPAAGb",
      "ObdtKbPAAGbObdoJbPAAGbObgxFbPAAGbObdtSbPAAGbObevTbPAAGbObdoDbPAAGbObevRbPAAGbObdrPbPAAG",
      "bObfnTbPAAGbObnaMbPAAGbObqoXbPAAGbObozKbPAAGbObnbSbPAAGbOcdfTbPAAGbObgzVbPAAGbObmpHbPAA",
      "GbObnlQbPAAGbObnaNbPAAGbObtxUbPAAGbObfvPbPAAGbObrjDbPAAGbOcbgRbPAAGbObtyZbPAAGbObfiIbPA",
      "AGbObdwTbPAAGbObfzWbPAAGbObipYbPAAGbObtaPbPAAGbObdxXbPAAGbOcbiDbPAAGbObfoMbPAAGbObtzPbP",
      "AAGbObdyNbPAAGbObxfEbPAAGbObxfNbPAACbaoCAACbhmSAACbmvIAACcdnCIAGeIeMdXAAFbYbXAAFbYbYAAF",
      "bYbZAAFbYcAAAFbYcBAAFbYcCAAFbYcDAAFbYcEAAFbYcFAAFbZbWAAFbZbXAAFbZbYAAFbZbZAAFbZcAAAFbZc",
      "BAACzhFABCzhDACCzhBAACzgZABCzgXAECzgVAACdocAAACdroKAACdthOAACdwtYAACdynCAACeagGAACedsQA",
      "ACehfAAACeiyEAACemkOAACeodSAACepwWAACerqAAACetjEAAFcziUcnmEAAFcycYcxmUAACeigIBACuvOAACv",
      "gGAACuwCAACbbnSAACvgQAACxkQAACuvIAACxkIAACvcCAACyuIAACbntSAACbuwMAACbrrKAACbnvYAACcudYA",
      "ACbbsAAACbmwWAACbopMAACbntEAACcbnQAACzjEAACbwkEAACcqfEAACcbpSAACyiIAACcbzAAACbylUAACbdk",
      "YAACctbEAACxdQAACywIAACbsdUAACcyuSAACvoAAACxlUAACbqzOAACutOAACuwEAACutMAACbgtQAACzfQAAC",
      "yrKAACbezYAACbewCAACbzrIAACvlWAACcqgGAACysWAACbdcQAAFbZcCAAFbZcDAAFbZcEAAFbZcFAAFcAbWAA",
      "FcAbXAAFcAbYAAFcAbZAAFcAcAAAFcAcBAAFcAcCAAFcAcDAAFcAcEAAFcAcFAAFcBbWAAFbXbnaMAAFbYbnaMA",
      "AFbZbnaMAAFcAbnaMAAFcBbnaMAAFcCbnaMAAFcDbnaMAAFcEbnaMAAFcFbnaMAAGbXbWbnaMAAGbXbXbnaMAAG",
      "bXbYbnaMAAFeAdZAAGdXeKdZAAFdXeOAAGeEeMdWAACbqXAACbqVAACbqTAACbqRABCbqPAACbqNAACbqLAACbq",
      "JAACbqHAACbqFAACbqDAACbqBAACbpZAACbpXAACbpVAACbpTAACbpPAACbpNAACbpLAFCbpJAACbpFAACbpBAA",
      "CboXAACboTAECboPAACboNAACboLAFCboJADCboHAAFbdwUbgaMAAHskWsmRsoIsmIAAHskWsnRsmVskVAAHskW",
      "snZsnAskWAAGskWsoIsnRAAHskYsmLsnZslKAAGskYsnZsmBAAGslAslDsnZAAIslCslTslJsoIsmJAAHslCsoI",
      "slFsoIAAGslEsnZslTAAGslEsoIsnGAAGslFskYsnQAAHslFsnPsmDsmIAAHslFsnTsnQsoIAAGslGsnTsnZAAG",
      "slGsnZsnEAAFslIslGAAGslIsmLsoIAAHslHsnLsnQsoIAAHslIsnRsmAsoIAAFslHsnTAAIslHsnTslKsnPsnG",
      "AAJslHsnTsnHsoIsmIsnRAAIslHsnTsnVsmDsmIAAGslKsnPsnGAAIslKsnPsnGsmIsnZAAIslJsnRslWskYsnT",
      "AAHslJsnTsoIsmNAAGslLsoIslTAAGslNsnRsmKAAGslNsoIsnDAAHslPskYslJsnRAAIslPsnZsmBsoIsnGAAH",
      "slRsnQsnZslKAAGslVsnZsmBAAGslVsnZsmIAAGsmAsoIslTAAFsmHslRAAFsmJsnRAAFsmIsnZAAFsmKsmOAAG",
      "smOsmDsmIAAGsmPskYsmEAAIsmRsoIslVsnZsmIAAGsmRsoIsmEAAHsmQsoIsnSsnRAAIsmUskWslTsmIsnRAAG",
      "smUslJsnRAAFsmUslNAAFsmTsnRAAIsmVskVsnPsmDsmJAAHsmVskXsoIsmIAAIsmWsmDslRslBsnRAAGsmVsnP",
      "snZAAIsmYslJslZsoIsnRAAFsnAslXAAGsnAsmLsmSAAGsmYsnRsmEAAGsnAsnZslTAAGsnAsoIslSAAGsmZsoI",
      "slZAAHsnDskYsnZsmIAAGsnCsnRsmIAAFsnBsnZAAGsnDsnZsmJAAGsnBsoIsnRAAGsnBsoIsnZAAHsnEskYslJ",
      "snTAAGsnEskYsnRAAGsnEsmDsmPAAGsnEsnRslJAAIsnEsnZslRsnNsnZAAHsnFslJsnTsnZAAFsnFsnQAAIsnF",
      "snQsmQsoIsnRAAFsnHslGAAHsnHslGsmIsnZAAHsnHsoIsmIsnRAAGsnKsoIsmJAAGsnKsoIsnRAAGsnMskWsnZ",
      "AAHsnQsmDsmIsnRAAFsnQsnPAAGsnRsmUsoIAAHsnRsoIsmWsnRAAFsnSsnGAAIsnSsnZsmIslMsnZAAGsnVsmD",
      "smIAAFbWbqrXAAFbXbqrXAAFbYbqrXAAFbZbqrXAAFcAbqrXAAFcBbqrXAAFcCbqrXAAFcDbqrXAAFcEbqrXAAF",
      "cFbqrXAAGbXbWbqrXAAGbXbXbqrXAAGbXbYbqrXAAGbXbZbqrXAAGbXcAbqrXAAGbXcBbqrXAAGbXcCbqrXAAGb",
      "XcDbqrXAAGbXcEbqrXAAGbXcFbqrXAAGbYbWbqrXAAGbYbXbqrXAAGbYbYbqrXAAGbYbZbqrXAAGbYcAbqrXAAG",
      "eAeIdTAAFdWdTAAFdTeNAAGdUdTeKAAFeHeOAAFeIdVAAFdWeFAAGdWeFbYAAGdWeFbZAAFeBeNAAFbjtZbldOA",
      "AFbmsBbgaMAAFbhtVborJAAFbmqWbpePAAHbnlQbjzZbdyWbtxUAAFeIdTAAFeGdTAAFbkUdTAAFeFdTAAFeDdT",
      "AAFeDdUAAFeFdUAAFdZdUAAGdVdTeEAAHeDdVdTeEAAFeIdYAAFeGdYAAFbkUdYAAFbkUdZAAFeFdZAAFeDdZAA",
      "FeAeSAAGeDeAeSAAGeFeAeSAAGdZeAeSAAGeMeAeSAAFbkUeEAAFeFeEAAFdWeEAAFeDeEAAFdYeFAAFeGeFAAF",
      "bkUeFAAFeFeFAAFdVeFAAFeDeFAAGeFeFbYAAGdVeFbYAAFeFbYAAGeDeFbYAAGeFeFbZAAGdVeFbZAAFeFbZAA",
      "GeDeFbZAAGeFmxPeLAAHeFmxPeLbYAAFeIdTAAGeDeIdTAAGeFeIdTAAGdZeIdTAAGeKdTdWAAIeKdTdWmxPeLA",
      "AJeKdTdWmxPeLbYAAFeIeLAAFeGeLAAFbkUeLAAFeFeLAAFeIeOAAFeGeOAAFbkUeOAAFeFeOAAFeDeOAAFeFeO",
      "AAFeIePAAFeGePAAFbkUePAAFeFePAAFeDePAAFeFePAAFeDblHAAFeFblHAAAAAFdUeJAAFdVdVAAFdVdWAAHd",
      "VmxPeDdZAAAAAFdWdUAAFdZeRAAFeAdTAAFeAeIAAFeBeGAAFeDeDAAFeDeFAAFeDeMAAFeEeFAAFeEeGAAGeEe",
      "HdZAAFeEeQAAFeFdUAAGeFeBeEAAGeFeHeEAAFeIeAAAAAAGeIeIeFAAFeIeKAAFeLeKAAFeLeOAAFePdUAAGeO",
      "mxPeFAAGdTmxPeFAAFbXbmpHAAFbYbmpHAAFbZbmpHAAFcAbmpHAAFcBbmpHAAFcCbmpHAAFcDbmpHAAFcEbmpH",
      "AAFcFbmpHAAGbXbWbmpHAAGbXbXbmpHAAGbXbYbmpHAAGbXbZbmpHAAGbXcAbmpHAAGbXcBbmpHAAGbXcCbmpHA",
      "AGbXcDbmpHAAGbXcEbmpHAAGbXcFbmpHAAGbYbWbmpHAAGbYbXbmpHAAGbYbYbmpHAAGbYbZbmpHAAGbYcAbmpH",
      "AAGbYcBbmpHAAGbYcCbmpHAAGbYcDbmpHAAGbYcEbmpHAAGbYcFbmpHAAGbZbWbmpHAAGbZbXbmpHAAGdZdTeEb",
      "qqFCAcDIAnKTAAACCBACCBACCBACCBACCBACCBACCBACCBACCBACCBACCBACCBACCBACCBACCBACCBACCBACCBA",
      "CCBACCBACCBACCBACCTACCBACCBACCBACCBACCBACCBACCBACCBACCBACCBACCBACCBACCBACCBACesyLAACesy",
      "JdMHAbIACCBACCBACCBACCBACCBACCBACCDACCBACCBACCBACCBACCBACCBACCBACCBACCBACCBACCBACCBACCB",
      "ACCBACCBACCBACCBACCBACCBACCBACCBACCBACCBACCBACCBACCBACCBACCBACCBACCBACCBACBIACCBACCBACe",
      "anVAACCBACCBACCBACCBACCEACCBACevcHCACCBACCDACCBACCBACCBACCBACCBACCBACCBACCBACCBACCBACev",
      "eLAACevfHAACeveZAACeveFAACeveLBACevaPAACevcLAACevaVAACctKAACCBACCBACCBACCBACCBACCBACCBA",
      "CCBACdRAACeveJAACearVAACCBACCBACevhDAACCBACCBACCBACCBACCBACCBACCBACCBACevxXATAAACewwHAA",
      "CewxPAACewxLAACewwRAACCCACewiZAACewfRbZCAKFAcEHAcSHAMFAeMKAbECAdAAALDAbHAAcDIAOBAKBAdZX",
      "AbCJAGBAGBAGIAHAAHAAbSACdeVAACcXAACexyZAACZJACexxFCDAAdBCekzNbUBAKFAqnSLAXDAbXmnBAAACde",
      "iXAACegqBAACdclRAACddzHAACearLAACezjXAACevbTABEcilOAACeqzFAACdaeRAACetvZAACeraDAACeklHA",
      "ACduyRAACdobJAACdiyZAACdhvXAACdgxNAACdbeDAACeejJAACecaLAACdzeVAACdwxLAACdknDAACdanTAACc",
      "ubXAACezfLAACevmBAACedqFAACdygRAACdjbNAACcqyDAACeoaJAACdzyBAACdjjFAACdgqPAACejwXAACdmjJ",
      "AACdhpVAACemxVAACegqLAACebvZAACdxqJAACdbbFAACeymVAACewvTAACevzDAACeikTAACedvNAACdyjBAAC",
      "durVAACdnuRAACdjgFAACdizRAACddgPAACcwgHAACctaXAACcrcXAACdtmBAACdstLAACdpqFAACdkyZAACczl",
      "DAACcqtDAACdfqJAACermJAACemvLAACdqpJAACdnmJAACdyeHAACdtiFAACdefBAACcwmDAACernNAACeovXAA",
      "CeemJAACebqBAACeasJAACdqaHAACdpgBAACcwzZAACewcTAACdnmLAACewvVAACewxDAACdsjJAACdppXAACdk",
      "xXAACcwxJAACdffFAACekaPAACeeoXAACdfpLAACezqFAACepgXAACemcXAACdxjVAACdvyHAACevyTAACdtgRA",
      "ACeymTAACemlLAACezuHAACecmXAACeibHAACdqdJAACevmDAACerzNAACduuHAACdksVAACdfxHAACediPAACd",
      "ccNAACecsXAACejyVAACdluRAACejmNAACdwaRAACezjDAACexhLAACexaDAACefuVAACdqjFAACdmeJAACdfvH",
      "AACdanTAACewdNAACevdZAACerfVAACencDAACehxJAACeaeDAACdtfPAACcxqFAACcuaZAACcqwVAACcqsRAAC",
      "ewlHAACeheFAACedpXAACdckRAACenmHAACeldDAACekuPAACeivLAACeawBAACdzfVAACdwtXAACdsuNAACdpq",
      "PAACdntVAACdcqDAACdkjLAACdbwVAACczmVAACewwVAACewmDAACeuwVAACdzqRAACdhmPAACdgbDAACenhHAA",
      "CemkHAACejsZAACednPAACdqzNAACdxqPAACeziTAACetfRAACepmRAACeocVAACemhZAACdxmJAACdwyJAACdo",
      "mBAACdnyXAACdajXAACcwuHAACcwoBAACcvyDAACeywXAACdszFAACdauFAACcwzNAACeltVAACezrJAACexxPA",
      "ACepnNAACephJAACeifHAACeewNAACdyzBAACdvpLAACdklNAACdbtDAACcqiNAACehnLAACcxlFAACewrJAACe",
      "guZAACeglVAACeclLAACebkVAACdxiBAACdwiHAACdtzXAACdqmNAACcvuXAACexnZAACekwDAACcxgNAACeymZ",
      "AACeosLAACebzJAACdcuRAACemwNAACeloRAACegkJAACdxtFAACcxgDAACexaLAACevpDAACephBAACehyNAAC",
      "ehaJAACefzVAACecuLAACdxkDAACdvzPAACdosVAACdhrBAACdhpTAACdawFAACcxaDAACewgDAACeblBAACevp",
      "FAACdzcLAACdwzTAACdjvNAACcxfNAACcsxHAACcreLAACegwFAACeceDAACdmyDAACdsiHAACdsbVAACdqzLAA",
      "CdykXAACeabJAACdfuTAACezsBAACdlzBAACexbTAACexfTAACenrHAACeknDAACdquZAACeqbDAACecsRAACeh",
      "pBAACdcxBAACdidRAACcxnZAACdhfHAACenoPAACexvZAACeulLCACesmLBACehuXCACexkNAACdyeXAACdvlPA",
      "ACdtpNAACdtmZAACdtmNAACdtjJAACcwvBAACdqyVAACdorXBACdjxJBACdgfBCACdcfXAACdbqVDACcvqRAACc",
      "vpTAACcvmLAACcsaZAACdbtVAACcxiTAACezdRAACeyfRAACexxXAACewuTAACewsTAACewkLAACeurHAACeujH",
      "AACeubVAACesrPAACesjRAACepoFAACepnNAACemjXAACeltRAACelqVAACeljFAACeivBAACeijVAACehwLAAC",
      "egkBAACecqTAACeceHAACebkBAACdzqXAACdzcLAACdxpVAACdugPAACdttJAACdtsPAACdtsTAACdtsFAACdtr",
      "VAACdtrJABCdtnTAACdtaDAACdsvFAACdrwTAACdqfLAACdqdXAACdpzRAACdpcHAACdorBAACdnfPABEbxkRAA",
      "CdlkHAACdhvJAACdhlDAACdgjHAACdgfBAACdezPAACdevPAACdcuXAACdckZAACcxjTAACcwnZAACcwjLAACem",
      "pVAACjovCAACdndPABAAACfamTAACexuTAACeyaTAACezmJAACeydPAACexzDAACexaBAACewwFAACeuwJAACev",
      "bZAACeuwVAACeurHAACesuTAACesnZAACescXAACesbTAACerhBAACeqrXAACenxVAACenxJAACenmJAACenhFA",
      "ACemkHAACembHAACemgTAACelwNAACemaDAACeloZAACeljZAACekfHAACejyPAACejuNAACejaPAACeieRAACe",
      "hsFAACehrZAACehnNAACeekDAACeefFAACedbFAACebvTAACebxBAACebqLAACeaxDAACdzxJAACdveXAACdziF",
      "AACdyyXAACdypNAACdxqLAACdxfBAACdxbBAACdwjTAACdwjRAACdvwPAACdvvJAACdvtNAACdvmZAACdvnVAAC",
      "dujLAACdsyFAACdsdLAACdrpDAACdqxZAACdqmHAACdpmZAACdoxTAACdmkVAACdlyVAACdjhFAACdhyFAACdhs",
      "ZAACdhrVAACdgvBAACdgqTAACdguHAACdgqFAACdgqNAACdgrXAACdgmDAACdgfZAACdfcRAACddlRAACdcnPAA",
      "CdbqZAACdbaBAACcxyXAACcxrBAACcxiHAACcwyDAACcwvLAACcwuPAACcwqZAACcunDAACcrbVAACiuiWAACiu",
      "iIAACjdcAAACfovHAACfllDAACfliRAACkadKAACkicQAAClhwIAACcrjLAACcrdTAbLAAAFdYdYAAFdYeBAAFd",
      "YeEAAGdYdYeBAAGdYdYeEABFeLeMALAAAFcbScbUAAFcbScbDAAFcbScbJAAFccCcbUAAFcbScbLAEAAAFcfPce",
      "EBAFcgOceHAAChdtJAAChduVABChduRACChduFAAChdtLAAChdtJAAChicPAAFcgFceRAAFcgFceSAAGcgFceMc",
      "eRAAGcgFceMceSAAFcfGceHAAFcfGceIAAFcfGceMAAFcfHceMAAFcfIceMAAFcfJceMAAFcfKceMAAFcfLceMA",
      "AFcfMceMAAAAAFcfOceMAAFcfPceMAAFcfQceMAAFcfRceMAAFcfSceMAAAAAFcfUceMAAAAAFcfWceMAAFcfXc",
      "eMAAAAAFcfZceMAAFcgAceMAAAAAFcgCceMAAFcgDceMAAFcgEceMAAFcgFceMAAFcgGceMAAFcfLceJAAFcfHc",
      "ePAAFcfRcePAAFcgAcePAAFcfGcfSABEclLADEclVADEclYADEcmAADEclUADEclZADEclTADEcnKADEcnMADEc",
      "mEADEcmDADEcmGADEcmHABEcmNABEcmMABEcmOABEcmIABEcmYABEcmRADEcnPADEcnVADEcnZADEcnXABEcoGA",
      "DEcoHABEcoMADEcoNADEcoKABEcpEABEcpFbHDEcnTABEcoTABEcoSABEcoUAAFcoTclOABEcoXABEcoRABEcoV",
      "ADEcpCABEcjXABFciOciPABFciOcpHABFciOcjWABFciOcoTABFciOcoSABFciOcoUACFciOcpCACFciOcjXADE",
      "coYAAFciOciUAAFciOciVAAFciOcjTAAFciOcjXAAFciOcjYAAFciQciUAAFciQciVAAFciQciWAAFciQcjTAAF",
      "ciQcjXAAFciQcjYAAFciSciUAAFciSciVAAFciSciWAAFciScjTAAFciScjXAAFciScjYAAFciTciUAAFciTcjT",
      "AAFciTcjXAAFciTcjYAAFciUciVAAFciUcjTAAFciVciUAAFciVcjTAAFciWciUAAFciWciVAAFciWcjTAAFcjB",
      "ciUAAFcjBciVAAFcjBciWAAFcjBcjTAAFcjDciVAAFcjDcjTAAFcjEciUAAFcjEciVAAFcjEciWAAFcjEcjTAAF",
      "cjFciVAAFcjFcjTAAFcjGcjTAAFcjHciUAAFcjHcjTAAFcjIciUAAFcjIcjTAAFcjPciUAAFcjPciVAAFcjPciW",
      "AAFcjPcjTAAFcjPcjXAAFcjPcjYAAFcjQciVAAFcjQcjTAAFcjQcjXAAFcjQcjYAAFcjRciPAAFcjRciUAAFcjR",
      "ciVAAFcjRciWAAFcjRcjSAAFcjRcjTAAFcjRcjXAAFcjRcjYAAFcjSciUAAFcjSciVAAFcjSciWAAFcjScjTAAF",
      "cjScjXAAFcjScjYAAFcjTciUAAFcjTciVAAFcjTciWAAFcjTcjTAAFcjTcjXAAFcjTcjYAAFcjUciUAAFcjUciV",
      "AAFcjUciWAAFcjUcjTAAFcjUcjXAAFcjUcjYAAFcjVciUAAFcjVcjTAAFcjVcjXAAFcjVcjYAAFcjYciUAAFcjY",
      "ciVAAFcjYciWAAFcjYcjTAAFcjYcjXAAFcjYcjYAAFciYclKAAFciZclKAAFcjXclKAAGbGckAckFAAGbGckBck",
      "FAAGbGckCckFAAGbGckDckFAAGbGckEckFAAGbGckFclKAAFciOciZAAFciOcjAAAFciOcjTAAFciOcjUAAFciO",
      "cjXAAFciOcjYAAFciQciZAAFciQcjAAAFciQcjTAAFciQcjUAAFciQcjXAAFciQcjYAAFciSciZAAFciScjAAAF",
      "ciScjTAAFciScjUAAFciScjXAAFciScjYAAFciTciZAAFciTcjAAAFciTcjTAAFciTcjUAAFciTcjXAAFciTcjY",
      "AAFcjPcjXAAFcjPcjYAAFcjQcjXAAFcjQcjYAAFcjRciPAAFcjRcjSAAFcjRcjTAAFcjRcjXAAFcjRcjYAAFcjS",
      "cjTAAFcjScjXAAFcjScjYAAFcjTciPAAFcjTcjTAAFcjUciZAAFcjUcjAAAFcjUcjTAAFcjUcjUAAFcjUcjXAAF",
      "cjUcjYAAFcjXclKAAFcjYciZAAFcjYcjAAAFcjYcjTAAFcjYcjUAAFcjYcjXAAFcjYcjYAAFciOciUAAFciOciV",
      "AAFciOciWAAFciOcjTAAFciOcjVAAFciQciUAAFciQciVAAFciQciWAAFciQcjTAAFciQcjVAAFciSciUAAFciS",
      "ciVAAFciSciWAAFciScjTAAFciScjVAAFciTcjTAAFciUciVAAFciUcjTAAFciVciUAAFciVcjTAAFciWciUAAF",
      "ciWcjTAAFcjBciUAAFcjBciVAAFcjBciWAAFcjBcjTAAFcjDciVAAFcjDciWAAFcjDcjTAAFcjEciUAAFcjEciV",
      "AAFcjEciWAAFcjEcjTAAFcjFciVAAFcjGcjTAAFcjHciUAAFcjHcjTAAFcjIciUAAFcjIcjTAAFcjPciUAAFcjP",
      "ciVAAFcjPciWAAFcjPcjTAAFcjQciVAAFcjQcjTAAFcjRciUAAFcjRciVAAFcjRciWAAFcjRcjSAAFcjRcjTAAF",
      "cjSciUAAFcjSciVAAFcjSciWAAFcjScjTAAFcjScjVAAFcjTciUAAFcjTciVAAFcjTciWAAFcjTcjTAAFcjUciU",
      "AAFcjUciVAAFcjUciWAAFcjUcjTAAFcjUcjVAAFcjVciUAAFcjVcjTAAFcjVclKAAFcjYciUAAFcjYciVAAFcjY",
      "ciWAAFcjYcjTAAFcjYcjVAAFciOcjTAAFciOcjVAAFciQcjTAAFciQcjVAAFciScjTAAFciScjVAAFciTcjTAAF",
      "ciTcjVAAFcjBcjTAAFcjBcjVAAFcjCcjTAAFcjCcjVAAFcjRcjSAAFcjRcjTAAFcjScjTAAFcjUcjTAAFcjUcjV",
      "AAFcjYcjTAAFcjYcjVAAGcjOckCckFAAGcjOckDckFAAGcjOckEckFAAFcjFcjXAAFcjFcjYAAFcjHcjXAAFcjH",
      "cjYAAFcjIcjXAAFcjIcjYAAFcjBcjXAAFcjBcjYAAFcjCcjXAAFcjCcjYAAFciVcjXAAFciVcjYAAFciUcjXAAF",
      "ciUcjYAAFciWcjXAAFciWcjYAAFcjDcjXAAFcjDcjYAAFcjEcjXAAFcjEcjYAAFcjCciUAAFcjCciVAAFcjCciW",
      "AAFcjCcjTAAFcjCciZAAFcjBciZAAFcjDciZAAFcjEciZAAFcjFcjXAAFcjFcjYAAFcjHcjXAAFcjHcjYAAFcjI",
      "cjXAAFcjIcjYAAFcjBcjXAAFcjBcjYAAFcjCcjXAAFcjCcjYAAFciVcjXAAFciVcjYAAFciUcjXAAFciUcjYAAF",
      "ciWcjXAAFciWcjYAAFcjDcjXAAFcjDcjYAAFcjEcjXAAFcjEcjYAAFcjCciUAAFcjCciVAAFcjCciWAAFcjCcjT",
      "AAFcjCciZAAFcjBciZAAFcjDciZAAFcjEciZAAFcjCciUAAFcjCciVAAFcjCciWAAFcjCcjTAAFcjBcjVAAFcjC",
      "cjVAAFcjFcjTAAFcjBciUAAFcjBciVAAFcjBciWAAFcjCciUAAFcjCciVAAFcjCciWAAFcjFcjTAAFcjGcjTABF",
      "ciPcjZSAGciSciUcjTABGciSciVciUAAGciSciVcjTAAGciSciWcjTAAGciScjTciUAAGciScjTciVAAGciScjT",
      "ciWABGciUcjTciVAAGciVcjTcjYAAGciVcjTcjXAAGcjBciVciUAAGcjBciUciVAAGcjBciUcjXABGcjBcjTciV",
      "AAGcjBcjTciUABGcjBcjTcjTABGcjDciVciVAAGcjDcjTcjTABGcjCciVcjTAAGcjCciUcjYABGcjCcjTciWABG",
      "cjCcjTcjTAAGcjEciVcjXABGcjEciWcjTABGcjFcjTciVAAGcjFcjTcjTAAGcjFcjTcjYAAGcjHciUcjTABGcjH",
      "cjTcjTAAGcjHcjTcjXAAGcjIcjTcjTAAGcjIcjTcjYAAGcjIcjTcjXABGcjPciWcjTAAGcjQcjTciVAAGcjQcjT",
      "cjTAAGcjSciVcjTAAGcjSciVcjYAAGcjSciVcjXABGcjSciUciUABGcjSciWcjTABGcjScjTciVAAGcjTciVciU",
      "AAGcjTciVcjTAAGcjTciVcjYAAGcjTciUciVAAGcjTciUcjTAAGcjTciWciUAAGcjTciWcjTCAGcjTciUciWAAG",
      "cjVcjTciUAAGcjVcjTcjTAAGcjUciVcjTAAGcjUciVcjXABGcjUciUcjTAAGcjUciUcjXAAGcjUcjTcjYAAGcjU",
      "cjTcjXABGcjYcjTcjTAAGciQciWcjYAAGciSciUcjYAAGciSciUcjXAAGciSciWcjYAAGciSciWcjXAAGciScjT",
      "cjYAAGciScjTcjXAAGciUcjTcjYAAGciUciVcjXAAGciUcjTcjXAAGcjBciWcjXAAGcjDciVcjYAAGcjCciVcjY",
      "AAGcjEciVcjYAAGcjSciUcjYAAGcjScjTcjYAAGcjYciVcjYAAGcjYciUcjYAAGcjYcjTcjYAAGcjTcjTcjYAAG",
      "cjQcjTcjYAAGcjUciVcjYAAGcjQcjTciVAAGcjSciVcjTAAGcjHcjTcjYAAGcjRcjTcjYAAGcjUciUciVAAGcjT",
      "ciWcjYAAGcjSciUcjTAAGcjRcjTcjTAAGcjSciUcjTAAGcjUciUciVAAGciUciVcjYAAGciVciUcjYAAGcjTciU",
      "cjYAAGcjPcjTcjYAAGciQciVcjYAAGcjRcjTcjTAAGcjHciUcjTAAGcjDcjTcjTAAGcjBciWcjYAAGcjUciUcjY",
      "IbFAAAGcjDcjScpEAAGcjQcjScpEAAHciPcjScjScjVAAHciPcjRciQciZAAHcjTciVcjTciXAAHcjDcjScjHcj",
      "TAAHciZcjBcjWcjSAAHcjHcjScjYcjVAAHcjWcjBcjScjTAAGcjDcjScjXAAVcjDcjScjXbGciPcjScjScjVbGc",
      "jHcjScjYcjVbGcjWcjBcjScjTAALciUcjSbGciUcjSciPcjScjVAAHciZcoYciPcjSDPBAAChkhRAACgabVAAAA",
      "BChkgVAAChkiXAAChkgRABCgaaRAGAQAAAACgmfXAACgmgBABEdRABChkkVAAChkePAAChkeNABCgadLABCgadX",
      "ABCgaeNABCgaeVADCgaeRCAChkiHAAChkiFADFbGbdTACEdRAAChkmPAACgagTABAAAChklTAAChklXAAChklPA",
      "AChknZAACgmiXABChknPAAChkhJAAChkhHABCgagFAAChkoLAAChkoHABChkoBAAChknZAAChkmXAAChkmVAACh",
      "kmZAAAAAChkkTABChkpDAAChknDADAAAFbGcjZAAFcjOcjZAAFbGckABAFbGckBAAAAAFbGckCAAFcjOckCAAFb",
      "GckDAAFcjOckDAAFbGckEAAFcjOckEAAFbGckFAAFcjOckFAAFbGckGAAFcjOckGAAChgcZABEciKABEciLABEc",
      "iMABEciNADEciOABEciPADEciQABEciRADEciSADEciTADEciUADEciVADEciWABEciXABEciYABEciZABEcjAA",
      "DEcjBADEcjCADEcjDADEcjEADEcjFADEcjGADEcjHADEcjIADEcjPADEcjQADEcjRADEcjSADEcjTADEcjUADEc",
      "jVABEcjWABEcjXADEcjYABFcjSciKABFcjSciLABFcjSciNABFcjSciPABAAABAAAAbFChlbBAZChkyPAbJChlb",
      "BABCgfzFAAChlhLABCgbaXAACgbbXAACgaiTAACgajNAACgapVAACgapTAACgapRAACgapPAACgapNAACgalDAA",
      "CgalBAACgakZAACganVAACgajNAACgaqNAACgaqLAACgaqJAACgaqHABCgaqFAACgaqDAACgaqBAACgapZAACga",
      "pXAACgapVAACgapTAACgapRAACgapPAACgapNAACgapLAACgapJAACgapFAACgapDAACgapBAFCgaoZAACgaoVA",
      "ACgaoRAACgaoNAACgaoJAECgaoFAACgaoDAACgaoBAFCganZAACganXAACganRABCgauRAABABCgytDAACgygFA",
      "ACgytFABCgygFACCgytJAFCgygHAACgysHACCgytXAACgysBAJCgytZACAAFCgyoFABAAFCgyoJABAAFCgyoNAB",
      "AACCgyoRACAABChliHAAChlhRAAFbGbdSAAChliHAAChliLAACgncBAAAAACgjuPADCgmkNAACgjiVAACgjfPAQ",
      "AMAAbAAATAACAAPBAObHAeTEADDAbTCAdKAANCABbUAbUeZAbDCAbXOAbCDAbKIAbEEAbREAbEAAbLDAObPAAbN",
      "CdCeOBAKFAAbJCdCADAbKDAbOHAcAKABKCdAAAAAOCdAAAAAGCdAAAAABCdAAAALAAPAAHAACCAcALAlZIAWJAI",
      "XABBChplPAAChqxLAAChpqBAAChpvNAAAAAChppNAACcruHAAChppNAAChppRABChpvTAACgvfRAAChpvVAAChp",
      "vLAAChppTAAChpvDAAChpvJAAChpvPAAChprDAAChqtVAAChprFAAChpvJAAChptFABChpqJAAChpvHAACghdWA",
      "ACcutPAAChpvJAACghdSAAChptBAACghdQAAChqyLABChpvDAAChrjBAAChpvBAACghdIABChpuZAAChpuXAACh",
      "prXAAChpsDAACcrxBAAChpsFAAChpuRAACgkbLAAAAAChpuJABChptBAAChptXACChqkPAACghcCAACghdOAcQA",
      "GBABAAbSAACCABBAXAAcUHAJbVATAACEAbHCAbBEAbBbLAcEDAUBAbYAACEAIAADAAbDBADDAKGAJGAcMbFAbND",
      "AMIAcCCAbDBAbBEAbAGAELAHdBAcVcCAAbYCeYAMAbZGAbUHAKFAQVCcMACAbDHAChZAbFAAbQAADBACPAGHAJb",
      "GAbUHAbQVAbAbLAbCTAXIAdADAbKIAcKAAFMAZGAKFAcBAASHAbNIAdSAAUKASAAbVcJAHAABAAEAAPAALFAcHE",
      "AKFAEAAIBACBAWAAHAACAAFAAKBACBADBABFABEAHBAHCAFKAKAABBABAAbMAAKAABBABAAEAAKAACHACbCAdOA",
      "AFbDAcUHAKgJAcCBAbMbHAcRKAKFANSAcGFAKFAUbBAbBBAPDAXhCAcIdVAAbFCcMbZLAIBABBAIAACAAbEAACB",
      "AMIAKcRAIBAbUBALbAAcUHAdFMAcVGAKdHAIdJAbINAKFAJAAbTAAOJAbDCAbGBAWAAOcUAHAACAAbSCABAACAA",
      "JHAKFAGAACAAbLAACAAGGAKFAbSDAKjLAZGARAAbPCAbDdGABOAbYMAbjNdXAeHAAFKAhOdxJAdVMAbpGPAWJAf",
      "xREAwLkdCAcGcoRAvXGAbFAAKDAdDAAKFAbEBAGJAcSJAKAAHAAVEATqPAcGhPAAbFCcMcHEAAYCcCABAZbRAcX",
      "DAcFGARcLAFKAHIAkxYbOAbGdSAeLmwQAEAAHAACAAlFOABbCADBABNAEHApGdkTAeDEANCAJGAKBAEDBAfvFAi",
      "GZCnktLAJCnkzFDCAqUFAXOAROAbUBAXIAeMcHAjMJAbNBAcBAFgufVgugJAAFgufWgugJAAGgufWgugJgugSAA",
      "GgufWgugJgugTAAGgufWgugJgugUAAGgufWgugJgugVAAGgufWgugJgugWOHBcMAFgujPgugJAAFgujQgugJAAG",
      "gujPgugJgugSAAGgujQgugJgugSAAGgujPgugJgugTAAGgujQgugJgugTbQUAcSeRAULAULAdJIAZfEAAZCnqeN",
      "AZCnqgNAZCnqiNAGCnqkNAAAARCnqkNAZCnqmNAZCnqoNAACnqqNAAAABCnqqNABAAACnqqNABAABCnqqNABAAD",
      "CnqqNAAAAHCnqqNADCnqsNAAAAACnqsNAAAAGCnqsNAAAAKCnqsNAZCnquNAZCnqwNABCnqyNAAAADCnqyNABAA",
      "HCnqyNAAAAGCnqyNAAAAZCnraNABCnrcNAAAADCnrcNAAAAECnrcNAAAAACnrcNACAAGCnrcNAAAAZCnreNAZCn",
      "rgNAZCnriNAZCnrkNAZCnrmNAZCnroNAZCnrqNAZCnrsNAZCnruNAZCnrwNAZCnryNAZCnsaNAZCnscNAACnroN",
      "AACnquLABAAQCnprPAACnpsJAGCnprPAACmsuDAQCnptPABEblBAFCnptPAACmswNAACnpvHAACnpvDAACnpvBA",
      "ACnpuFAACnpuRAACnpuVAQCnpwBAACnpwVAGCnpwBAACmsyPAQCnpyBABEblBAFCnpyBAACmtaZAACnpzTAACnp",
      "zPAACnpzNAACnpyRAACnpzDAACnpzHAQCnqaNAACnqbHAGCnqaNAACmtdBAQCnqcNABEblBAFCnqcNAACmtfLAA",
      "CnqeFAACnqeBAACnqdZAACnqdDAACnqdPAACnqdTAQCnqeZAACnqfTAGCnqeZAACmthNAQCnqgZABEblBAFCnqg",
      "ZAACmtjXAACnqiRAACnqiNAACnqiLAACnqhPAACnqiBAACnqiFAQCnqjLAACnqkFAGCnqjLAACmtlZAQCnqlLAB",
      "EblBAFCnqlLAACmtoJAACnqnDAACnqmZAACnqmXAACnqmBAACnqmNAACnqmRABEbmBABAAJCntfFAJCntfZAJCn",
      "tgTAJCnthNAJCntiHzCOAFAAPbqLAbFFAGiEAHAARBAHAACAAFEAAICnwnNACCnwnLAKCnwnJAACnwnFABCnwnD",
      "AACjdqNAACnwcPAACnwmTAACnwmRAACnwbPAACnwgDAACnwdTAICnwqBABCnwpZABCnwpVAACnwpTAFCnwpRABC",
      "nwpPAACnwkHAACnwoXAACnwpBAACnwoJAACnwiPAACjdxLAACnwiHAbGABeHAbTCAOBAKDACmHAbFQAcGEABrVA",
      "bQiFAbRDABhJAbFAAWHACiPAHAAEAACAAPAAhPBAQbOAAbHCcQbQDAKDACbeEAcQcXAcJhLAABCofmVAACofmPA",
      "ACofmLAAAAACofkRAACofmLAACofmXAACofmFAACofkVADCoflLAACofmZAACofmPAACofmBAACofnBAACofmDA",
      "ACofnNAACofnJABCofoFAACofoBAACofnZAACofnPAACofnNAACofnLAACofjNAACofdTAACoffTAACofjRAAAA",
      "ACofpHAACofpBAAAAACofnDABAAACofpJAAAAACofnHADCofnXAACofpLAACofpBAACofoNAACofpNAACofoPAA",
      "AAACofpVABCofqRAACofqNAAAAACofqBAAAAACofpXAFAAACofrNADAAACofrVAAAAACofpTAAAAACofqJAAAAA",
      "CofqJAACofrXAACofrNAAAAACofrZAACofrBAAAAACofsHABAAACofsZAAAAACofsNAAAAACofsJAAAAACofiRA",
      "AAAACofoPAAAAACofuFAACoftZAAAAACofsBABAAACofuHAACoftPAACofsFAACofsVAAAABCofsVAACofuJAAC",
      "oftZAACoftLAACofuLAACoftNAAAAACofuTABCofvPAACofvLAAAAACofuZAACofuXAACofuVAACofqXAAAAACo",
      "fnDAAAABCofwRAACofwLAACofwHABCofuNAACofwHAACofwTAACofwBAACofuRAAAACCofvHAACofwVAACofwLA",
      "ACofvXAACofwXAACofvZAACofxJAACofxFABCofyBAACofxXAACofxVAACofxLAACofxJAACofxHAEAAACofzDA",
      "ACofyXAACofyTAAAAACofwZAACofyTAACofzFAACofyNAACofxDAAAACCofxTAACofzHAACofyXAACofyJAACof",
      "zJAACofyLAACofzVAACofzRABCogaNAACogaJAACogaHAACofzXAACofzVAACofzTAbZACkJAbSDAdWLAPBAPAA",
      "PAAbLKAAAFbWbSAAFbXbSAAFbYbSAAFbZbSAAFcAbSAAFcBbSAAFcCbSAAFcDbSAAFcEbSAAFcFbSFAGbOdTbPA",
      "AGbOdUbPAAGbOdVbPAAGbOdWbPAAGbOdXbPAAGbOdYbPAAGbOdZbPAAGbOeAbPAAGbOeBbPAAGbOeCbPAAGbOeD",
      "bPAAGbOeEbPAAGbOeFbPAAGbOeGbPAAGbOeHbPAAGbOeIbPAAGbOeJbPAAGbOeKbPAAGbOeLbPAAGbOeMbPAAGb",
      "OeNbPAAGbOeObPAAGbOePbPAAGbOeQbPAAGbOeRbPAAGbOeSbPAAGsfKeLsfLAAComgTAAComfRAAFdVdWAAFeP",
      "eSBZComhHAAFeAeOAAFeFeOAAFeLdWAAFeLeLAAGeIeIeOAAFePdVbAAFeFdVAAFeFdWAAFeFeKbJAFdWeCbDcD",
      "AbAAFsjJshNAAFslNslNAACnchTAMAAAClquJAAClwbJAACmbtZAACnchRAACmftNAAClxtTAACkmvDAAClxsTA",
      "ACmfrZAAClnxPAAClfoZAACloiDAACmcyFAAClsxLAACmdnDAAClogRAACmdcFAACkwkRAAClcoZAACkktNAACl",
      "xyDAACmbnBAAClheHAAClqqLAAClqbTAACmgfXAACmgfHAACkiaRAAClufBAACmgcTAACmbtDAAClqiHAACkkfF",
      "AAClqwHAACkzhXAACkyoVAACmbrZAAClhqVAAClnhXAAClniBAAClcpDAACmcxPAACmalJAACkhhZADAAAGsfKb",
      "nbWsfLAAGsfKbdoJsfLAAGsfKbdtKsfLAAGsfKbirHsfLAAGsfKbqrXsfLAAGsfKblgDsfLAAGsfKbtaDsfLAAG",
      "sfKbfjXsfLAAGsfKbmjVsfLAGAAACltaNAACmbwDANAGfXAblXCARCANCAiKFAMDABOAMDAcEHAKFAbOHAbEBAM",
      "DACNAJbMAnGHAOBANCALCAcFAABDAQBAMDAKGAfRAAdOJCouoTBbnOAclfCbFAgmOBAioCBAlbLOAxYdqVAAACt",
      "wjLAACtwjXAACtwjHAAChezPAACtvnJAACtvhLAACtvgNAACtvbDAACturZAACtupRAACtujTAACtulRAACupuX",
      "AAChbeBAACtucFAACtubTAACtuaPAACttzFAAChcaLAACuptJAACtuaRAACttxVAAChbxDAACttxFAACttwHAAC",
      "twaJAACttvVAACttvFAACczlHAACttqLAACttpLAACuprJAACttlHAACttkNAACtthFAACttgXAACupnPAACtta",
      "XAACttaVAACtsyVAACtsxFABCtswLAACtsvFAACtsrLAACtsqXAACtsqHAACtsoLAACtsnTACEbfqDAACgyhJAA",
      "CswqBAACtsiHAACtsgTAACgxjTAACtsfZAACtsfPAACtseBAACtrsLAACtsaJAACtrzFAACtrwVAACtrsLAACtr",
      "mBAACtrkDAACtrfBAACtrdXABEbgkAAACtqzZAACtqyRAACtqyDAACtqxBAACtpwZAACtqrZAACtpxBAACtqmJA",
      "ACtqjTAACttsZAACtonDAACtpjJAACtpgNAACtpeRAACtpoTAACtpbZAACtpcDAACtosTAACgqhDAACtonNAACt",
      "onFAACtomDAACtokRAACtokDAACtofHAACgoyXAACgotXAACtnuXAACtnrJAACtnqNAACtnwRAACtnlVAACuoiJ",
      "AACuohJAACtmzPABEbioKAACgmqHAACtmlNAACtmjZAACtmiXAACtmiBAACglqVAACtmhHAACtmgVAACtjtXAAC",
      "tmeVAACunyFAACtmaFAACtlzFAACtlsZAACtlwZAACgjoNAACtljDAACgjoNAACtlfZAACtlgHAACtlfBABCtkx",
      "JAACunlVAACtkvLAACtksFAACtkqRAACtknJAACuniHAACggwHAACungLAACtkiFAACtkiBAACtkhXAACtkgLAA",
      "CcmjPAACtkcPABEhzfTAACsjpJABEbkaSAACunbPAACftwNAACekeLAACtjvPAACtjuZAACumzVAACtjrNAACtj",
      "nRAACtjmZAACtjkLAACtjaBAACumtPAACumvZAACtiyVAACgcxRAACtivBAACtilFAACtikZAACtikXAACtilDA",
      "ACtihRAACtigFAACtidNAACtieRAACtidXAACtiaJAACthyXAACthyRAACthwTAACthvZAACthqZAACthkPAACt",
      "hhZAACtgyNAACfzuDAACthaDAACthfFAACtgwZAACtguZAACtgnPAACfzcZAACtgiZAACtgqFAACtgsLAACumdJ",
      "AACtgdVAACtgcHAACtfzZAACtgcZAACulyZAACtfmNAACtfkJAACfwbFAACtfbJAACtegDAACtetRAACulmFAAC",
      "teoHAACulnRAACulqNAACtulZAACtulVAACtegDAACtenXAACskuRAACuewPAACteeRAACteeLAACteeBAACtdz",
      "LAACteaJAACfthJAACuljTAACtdnTAACtdwVAACtdhDAACtddHAACfsuTAACtdcTAACtdlJAACtcsPAACuldZAA",
      "CtcpFAACtchVAACtccLAACtbnXAACfrdXAACtbkDAACukvBAACtbeXAACfpqNAACtbbDAACukrFAACtayZAACta",
      "vPABCtatPAACfofRAACgkoVAACfnxLAACtaiPAACfmoZAACtaaBAACszzBAACtagZAACsztPAACszqPAACszmHA",
      "ACszqNAACsznNAACszmLAACszlNAACfmiHAACszrXAACsyyRAACsytXAACukbLAACsymXAACsynHAACflbJAACs",
      "zdHAACsyaRAACfkqTAACfknDAACsxuDAACsxlJAACsxnNAACsxnVAACujuTAACsxkJAACsxgNAACsxhBAACsxcZ",
      "AAChcuDAACswrLAACfikHAACswkXAACfhlFAACswaHAACsvzJAACsvxJAACffqZAACsvtVAACsvsHAACfeuBAAC",
      "fecZAACsvaXAACsuzRAACujaXAACsuxVABExtOAACsulPAACsukBAACsuiNAACsuhBAACsubVAACuitBAACstvB",
      "AACfbaRAACsttFAACfatTAACstpNAACghhRAACstdJAACeylVAACeykDAACexzLAACuicPAACuibTAACssmHAAC",
      "exmHAACexmLAACexjNAACexhPAACssjLABEbtcXAACssgHAACuhyTAACssbLAACuhxXAACuhrVAACevcXAACsrm",
      "TAACsriBAACsrdFAACuhmHAACetpFAACsqsVAACetgLAACetdFAACsqoRAACsqhRAACuhgZAACsqbHAACsqaPAA",
      "CsqaHAACercHABEiufVAACspoJAACugrJAACeplRAACsoxZAACsoxVAACugoVAACeovPAACsodRAACugfTAACso",
      "cDAACsocPAACsoaLAACemoNAACsnsZAACufyTAACsnlLAACsngZAACsnbXAACufvDAACekpFAACekmXAACufsNA",
      "ACekbVAACsmePAACejuFAACsmcRAACsluZAACsluFAACeioVAACeijHAACslnLAACehzFAACslmJAACfubPAACu",
      "fjZAACslhNAACslbJAACufgBAACskwZAACtobXAACegmPAACeglPAACftyHAACftxRAACskiLAACskiHAACsaaN",
      "AACuezLAACsjxRAACsjyFAACsjwXAACtueNAACsjvNAACsjvLAACsjuTAACsjrRAACedvHAACsjrXAACsjnRAAC",
      "sjiJAACsjcTAACsjnLAACsjbRAACsiyNAACsipZAACsjkBAACsjaZAACsjaXAACsizTAACeddBAACecfJAACecq",
      "ZAACuemPAACsieVAACsieTAACsicDAACdxkJAACshwHAACeaxLAACuejHAACuejBAACeanLAACdzrHAACueiNAA",
      "CsheRAACshdVAACshdBAACshcZAACsgyDAACshaTAACsgqNAACsgtZAACsgiLAACsgoTAACsgjRAACsghRAACue",
      "bFAACsgaVAACsfyLAACudyVAACsfrHAACsfrDAACdvmXAACsfiJAACsfhXAACuduRAACsffXAACuraZAACdtuNA",
      "ACdtgLAACudkNAACudjXAACsdzXAACsduBAACsdiBAACscsNAACdquVAACscmBAACsckLAACscdPAACsbwPAACd",
      "oxLAAChbeFAACsbqJAACsbrPAACsbnRAAChanTAACsawHAACsaoRAACdjxJAACdjvJAACrzoDAACrzhBAACrzeR",
      "AACdiwZAACrzeBAACryiFABCrxwBAACrydFAACrwzZAACrwxXAACdfhDAACrvvHAACubjFAACrvsBAACdeeDAAC",
      "ubdFAACruxRAACtmdNAACruqLAACdbhPAACdarHAACuatFAACuasRAACrucHAACczfLAACuaoHAACcyuVABEcfp",
      "BAACrtxDAACcxyZAACrtjBAACuaeXAACrtdTAACrsuDAACrssDAACrsnPAACtztJAACctvTAACrrsPAACrqvLAA",
      "CrqgZAACtzaBAACtyxTAACrpzBAACcppRAACtyxDAACcplPAACcorHAACcohHAACrozJAACtyqHAACrouTAACro",
      "uLAACrotZAACrotHAACrosVAACroqBAACclsJAcfXAhhZEAmoObogxXAAjFBAlecTA"])
  ⟨(domainActionsFrom 0 row.length row).toArray⟩

/-- What a character is replaced by, none if it may not occur. -/
def DomainAction.replace? (n : Nat) : DomainAction → Option (List Nat)
  | .refuse => none
  | .drop => some []
  | .shift d => some [(n + d).toNat]
  | .replace cs => some cs

/-- What a character of a domain name is replaced by, none if it may not occur. -/
def domainMap? (n : Nat) : Option (List Nat) :=
  (domainActions.find? n).elim (some [n]) (DomainAction.replace? n)

end BrowserShell.Unicode
