import BrowserShell.Unicode.Table
import Std.Data.HashMap

/-!
# Composed characters

The tables of canonical equivalence: the decomposition of each composed character, the pairs that
compose, and the combining class that orders marks. Syllables of Hangul follow a rule of their own
and are not listed.
-/

namespace BrowserShell.Unicode

/-- The decompositions of a row: the gap to a character, the length of its decomposition, and the
decomposition. -/
def decompositionsFrom (start : Nat) : (fuel : Nat) → List Nat → List (Nat × List Nat)
  | fuel + 1, gap :: count :: rest =>
    (start + gap, rest.take count) :: decompositionsFrom (start + gap) fuel (rest.drop count)
  | _, _ => []

/-- The full canonical decompositions. -/
def decompositions : Std.HashMap Nat (List Nat) :=
  let row := numbers
    (String.join [
      "hKCcNbdOBCcNbdPBCcNbdQBCcNbdRBCcNbdWBCcNbdYCCcPbfBBCcRbdOBCcRbdPBCcRbdQBCcRbdWBCcVbdOBC",
      "cVbdPBCcVbdQBCcVbdWCCdAbdRBCdBbdOBCdBbdPBCdBbdQBCdBbdRBCdBbdWDCdHbdOBCdHbdPBCdHbdQBCdHb",
      "dWBCdLbdPDCdTbdOBCdTbdPBCdTbdQBCdTbdRBCdTbdWBCdTbdYCCdVbfBBCdXbdOBCdXbdPBCdXbdQBCdXbdWB",
      "CeBbdOBCeBbdPBCeBbdQBCeBbdWCCeGbdRBCeHbdOBCeHbdPBCeHbdQBCeHbdRBCeHbdWDCeNbdOBCeNbdPBCeN",
      "bdQBCeNbdWBCeRbdPCCeRbdWBCcNbdSBCdTbdSBCcNbdUBCdTbdUBCcNbfCBCdTbfCBCcPbdPBCdVbdPBCcPbdQ",
      "BCdVbdQBCcPbdVBCdVbdVBCcPbeABCdVbeABCcQbeABCdWbeADCcRbdSBCdXbdSBCcRbdUBCdXbdUBCcRbdVBCd",
      "XbdVBCcRbfCBCdXbfCBCcRbeABCdXbeABCcTbdQBCdZbdQBCcTbdUBCdZbdUBCcTbdVBCdZbdVBCcTbfBBCdZbf",
      "BBCcUbdQBCeAbdQDCcVbdRBCeBbdRBCcVbdSBCeBbdSBCcVbdUBCeBbdUBCcVbfCBCeBbfCBCcVbdVECcWbdQBC",
      "eCbdQBCcXbfBBCeDbfBCCcYbdPBCeEbdPBCcYbfBBCeEbfBBCcYbeABCeEbeAFCdAbdPBCeGbdPBCdAbfBBCeGb",
      "fBBCdAbeABCeGbeAECdBbdSBCeHbdSBCdBbdUBCeHbdUBCdBbdZBCeHbdZDCdEbdPBCeKbdPBCdEbfBBCeKbfBB",
      "CdEbeABCeKbeABCdFbdPBCeLbdPBCdFbdQBCeLbdQBCdFbfBBCeLbfBBCdFbeABCeLbeABCdGbfBBCeMbfBBCdG",
      "beABCeMbeADCdHbdRBCeNbdRBCdHbdSBCeNbdSBCdHbdUBCeNbdUBCdHbdYBCeNbdYBCdHbdZBCeNbdZBCdHbfC",
      "BCeNbfCBCdJbdQBCePbdQBCdLbdQBCeRbdQBCdLbdWBCdMbdPBCeSbdPBCdMbdVBCeSbdVBCdMbeABCeSbeAbIC",
      "dBbePBCeHbePOCdHbePBCeNbePbDCcNbeABCdTbeABCcVbeABCeBbeABCdBbeABCeHbeABCdHbeABCeNbeABDdH",
      "bdWbdSBDeNbdWbdSBDdHbdWbdPBDeNbdWbdPBDdHbdWbeABDeNbdWbeABDdHbdWbdOBDeNbdWbdOCDcNbdWbdSB",
      "DdTbdWbdSBDcNbdVbdSBDdTbdVbdSBChQbdSBCiWbdSDCcTbeABCdZbeABCcXbeABCeDbeABCdBbfCBCeHbfCBD",
      "dBbfCbdSBDeHbfCbdSBCqXbeABCzIbeABCeCbeAECcTbdPBCdZbdPDCdAbdOBCeGbdOBDcNbdYbdPBDdTbdYbdP",
      "BChQbdPBCiWbdPBCiIbdPBCjObdPBCcNbeDBCdTbeDBCcNbeFBCdTbeFBCcRbeDBCdXbeDBCcRbeFBCdXbeFBCc",
      "VbeDBCeBbeDBCcVbeFBCeBbeFBCdBbeDBCeHbeDBCdBbeFBCeHbeFBCdEbeDBCeKbeDBCdEbeFBCeKbeFBCdHbe",
      "DBCeNbeDBCdHbeFBCeNbeFBCdFbfABCeLbfABCdGbfABCeMbfADCcUbeABCeAbeAHCcNbdVBCdTbdVBCcRbfBBC",
      "dXbfBBDdBbdWbdSBDeHbdWbdSBDdBbdRbdSBDeHbdRbdSBCdBbdVBCeHbdVBDdBbdVbdSBDeHbdVbdSBCdLbdSB",
      "CeRbdSkJBbdOBBbdPCBbeHBCbdWbdPbWBbaVKBcHHCgMbdPBCbjDbdPBBhBBCbjHbdPBCbjJbdPBCbjLbdPCCbj",
      "RbdPCCbjXbdPBCbkBbdPBDbkRbdWbdPbACbjLbdWBCbjXbdWBCbkJbdPBCbkNbdPBCbkPbdPBCbkRbdPBDblDbd",
      "WbdPbACbkRbdWBCblDbdWBCbkXbdPBCblDbdPBCblHbdPFCblQbdPBCblQbdWbSCboFbdOBCboFbdWCCboDbdPE",
      "CbnQbdWFCboKbdPBCboIbdOBCboTbdULCboIbdUbGCbpObdUXCbpLbdOBCbpLbdWCCbpJbdPECbqSbdWFCbpQbd",
      "PBCbpObdOBCbpZbdUYCbrWbeDBCbrXbeDcWCboGbdUBCbpMbdUOCboAbdUBCbpGbdUBCboAbdWBCbpGbdWDCboF",
      "bdUBCbpLbdUDCbvSbdWBCbvTbdWBCboGbdWBCbpMbdWBCboHbdWBCbpNbdWDCboIbdSBCbpObdSBCboIbdWBCbp",
      "ObdWBCboObdWBCbpUbdWDCbwIbdWBCbwJbdWBCbpDbdWBCbqJbdWBCboTbdSBCbpZbdSBCboTbdWBCbpZbdWBCb",
      "oTbdZBCbpZbdZBCboXbdWBCbqDbdWDCbpBbdWBCbqHbdWlLCciPckHBCciPckIBCcjWckIBCciPckJBCcjYckIf",
      "YCcpHckICCcoNckIRCcpEckIxACdmEdmYICdmMdmYDCdmPdmYbKCdlLdmYBCdlMdmYBCdlNdmYBCdlSdmYBCdlX",
      "dmYBCdlYdmYBCdmHdmYBCdmLdmYeECdsHdrYBCdsHdsXQCdqVdrWBCdqWdrWCCdrJdrWdGCdwKdwUDCdwQdwUbJ",
      "CdvIdwUBCdvJdwUBCdvOdwUDCdwDdwUjACehBehQDCehBegSBCehBehRQCefPegQBCefQegQcDCejYemPcCCelY",
      "elQBCelZelQBCelYemPeUCeqWerMeQCevNewJHCevUewJBCevUewKCCevUevQBDevUevQewJeXCfaSfaKBCfaTf",
      "aKBCfaSfbJfMCfgJffUCCfgJffZBDfgJffZffUBCfgJfgPnTCfuGfyTKCfuQfyTFCfuVfyTFCfvAfyTFCfvFfyT",
      "NCfuEfyRKCfwBfwCCCfwBfwEBCfyOfwQCCfyPfwQJCfwBfwQSCfxIfyTKCfxSfyTFCfxXfyTFCfyCfyTFCfyHfy",
      "TNCfxGfyReFCgcZgdIedCCkgBkhXCCkgDkhXCCkgFkhXCCkgHkhXCCkgJkhXECkgNkhXbPCkiCkhXCCkiEkhXDC",
      "kiGkhXBCkiHkhXCCkiKkhXbaZCcNbeZBCdTbeZBCcObdVBCdUbdVBCcObeXBCdUbeXBCcObfLBCdUbfLBDcPbfB",
      "bdPBDdVbfBbdPBCcQbdVBCdWbdVBCcQbeXBCdWbeXBCcQbfLBCdWbfLBCcQbfBBCdWbfBBCcQbfHBCdWbfHBDcR",
      "bdSbdOBDdXbdSbdOBDcRbdSbdPBDdXbdSbdPBCcRbfHBCdXbfHBCcRbfKBCdXbfKBDcRbfBbdUBDdXbfBbdUBCc",
      "SbdVBCdYbdVBCcTbdSBCdZbdSBCcUbdVBCeAbdVBCcUbeXBCeAbeXBCcUbdWBCeAbdWBCcUbfBBCeAbfBBCcUbf",
      "IBCeAbfIBCcVbfKBCeBbfKBDcVbdWbdPBDeBbdWbdPBCcXbdPBCeDbdPBCcXbeXBCeDbeXBCcXbfLBCeDbfLBCc",
      "YbeXBCeEbeXBDcYbeXbdSBDeEbeXbdSBCcYbfLBCeEbfLBCcYbfHBCeEbfHBCcZbdPBCeFbdPBCcZbdVBCeFbdV",
      "BCcZbeXBCeFbeXBCdAbdVBCeGbdVBCdAbeXBCeGbeXBCdAbfLBCeGbfLBCdAbfHBCeGbfHBDdBbdRbdPBDeHbdR",
      "bdPBDdBbdRbdWBDeHbdRbdWBDdBbdSbdOBDeHbdSbdOBDdBbdSbdPBDeHbdSbdPBCdCbdPBCeIbdPBCdCbdVBCe",
      "IbdVBCdEbdVBCeKbdVBCdEbeXBCeKbeXBDdEbeXbdSBDeKbeXbdSBCdEbfLBCeKbfLBCdFbdVBCeLbdVBCdFbeX",
      "BCeLbeXBDdFbdPbdVBDeLbdPbdVBDdFbeAbdVBDeLbeAbdVBDdFbeXbdVBDeLbeXbdVBCdGbdVBCeMbdVBCdGbe",
      "XBCeMbeXBCdGbfLBCeMbfLBCdGbfHBCeMbfHBCdHbeYBCeNbeYBCdHbfKBCeNbfKBCdHbfHBCeNbfHBDdHbdRbd",
      "PBDeNbdRbdPBDdHbdSbdWBDeNbdSbdWBCdIbdRBCeObdRBCdIbeXBCeObeXBCdJbdOBCePbdOBCdJbdPBCePbdP",
      "BCdJbdWBCePbdWBCdJbdVBCePbdVBCdJbeXBCePbeXBCdKbdVBCeQbdVBCdKbdWBCeQbdWBCdLbdVBCeRbdVBCd",
      "MbdQBCeSbdQBCdMbeXBCeSbeXBCdMbfLBCeSbfLBCeAbfLBCeMbdWBCePbdYBCeRbdYCCoTbdVFCcNbeXBCdTbe",
      "XBCcNbdXBCdTbdXBDcNbdQbdPBDdTbdQbdPBDcNbdQbdOBDdTbdQbdOBDcNbdQbdXBDdTbdQbdXBDcNbdQbdRBD",
      "dTbdQbdRBDcNbeXbdQBDdTbeXbdQBDcNbdUbdPBDdTbdUbdPBDcNbdUbdOBDdTbdUbdOBDcNbdUbdXBDdTbdUbd",
      "XBDcNbdUbdRBDdTbdUbdRBDcNbeXbdUBDdTbeXbdUBCcRbeXBCdXbeXBCcRbdXBCdXbdXBCcRbdRBCdXbdRBDcR",
      "bdQbdPBDdXbdQbdPBDcRbdQbdOBDdXbdQbdOBDcRbdQbdXBDdXbdQbdXBDcRbdQbdRBDdXbdQbdRBDcRbeXbdQB",
      "DdXbeXbdQBCcVbdXBCeBbdXBCcVbeXBCeBbeXBCdBbeXBCeHbeXBCdBbdXBCeHbdXBDdBbdQbdPBDeHbdQbdPBD",
      "dBbdQbdOBDeHbdQbdOBDdBbdQbdXBDeHbdQbdXBDdBbdQbdRBDeHbdQbdRBDdBbeXbdQBDeHbeXbdQBDdBbePbd",
      "PBDeHbePbdPBDdBbePbdOBDeHbePbdOBDdBbePbdXBDeHbePbdXBDdBbePbdRBDeHbePbdRBDdBbePbeXBDeHbe",
      "PbeXBCdHbeXBCeNbeXBCdHbdXBCeNbdXBDdHbePbdPBDeNbePbdPBDdHbePbdOBDeNbePbdOBDdHbePbdXBDeNb",
      "ePbdXBDdHbePbdRBDeNbePbdRBDdHbePbeXBDeNbePbeXBCdLbdOBCeRbdOBCdLbeXBCeRbeXBCdLbdXBCeRbdX",
      "BCdLbdRBCeRbdRHCbkJbeHBCbkJbeIBDbkJbeHbdOBDbkJbeIbdOBDbkJbeHbdPBDbkJbeIbdPBDbkJbeHbgCBD",
      "bkJbeIbgCBCbjDbeHBCbjDbeIBDbjDbeHbdOBDbjDbeIbdOBDbjDbeHbdPBDbjDbeIbdPBDbjDbeHbgCBDbjDbe",
      "IbgCBCbkNbeHBCbkNbeIBDbkNbeHbdOBDbkNbeIbdOBDbkNbeHbdPBDbkNbeIbdPDCbjHbeHBCbjHbeIBDbjHbe",
      "HbdOBDbjHbeIbdOBDbjHbeHbdPBDbjHbeIbdPDCbkPbeHBCbkPbeIBDbkPbeHbdOBDbkPbeIbdOBDbkPbeHbdPB",
      "DbkPbeIbdPBDbkPbeHbgCBDbkPbeIbgCBCbjJbeHBCbjJbeIBDbjJbeHbdOBDbjJbeIbdOBDbjJbeHbdPBDbjJb",
      "eIbdPBDbjJbeHbgCBDbjJbeIbgCBCbkRbeHBCbkRbeIBDbkRbeHbdOBDbkRbeIbdOBDbkRbeHbdPBDbkRbeIbdP",
      "BDbkRbeHbgCBDbkRbeIbgCBCbjLbeHBCbjLbeIBDbjLbeHbdOBDbjLbeIbdOBDbjLbeHbdPBDbjLbeIbdPBDbjL",
      "beHbgCBDbjLbeIbgCBCbkXbeHBCbkXbeIBDbkXbeHbdOBDbkXbeIbdOBDbkXbeHbdPBDbkXbeIbdPDCbjRbeHBC",
      "bjRbeIBDbjRbeHbdOBDbjRbeIbdOBDbjRbeHbdPBDbjRbeIbdPDCblDbeHBCblDbeIBDblDbeHbdOBDblDbeIbd",
      "OBDblDbeHbdPBDblDbeIbdPBDblDbeHbgCBDblDbeIbgCCCbjXbeICDbjXbeIbdOCDbjXbeIbdPCDbjXbeIbgCB",
      "CblHbeHBCblHbeIBDblHbeHbdOBDblHbeIbdOBDblHbeHbdPBDblHbeIbdPBDblHbeHbgCBDblHbeIbgCBCbkBb",
      "eHBCbkBbeIBDbkBbeHbdOBDbkBbeIbdOBDbkBbeHbdPBDbkBbeIbdPBDbkBbeHbgCBDbkBbeIbgCBCbkJbdOBCb",
      "kJbdPBCbkNbdOBCbkNbdPBCbkPbdOBCbkPbdPBCbkRbdOBCbkRbdPBCbkXbdOBCbkXbdPBCblDbdOBCblDbdPBC",
      "blHbdOBCblHbdPDDbkJbeHbgFBDbkJbeIbgFBEbkJbeHbdObgFBEbkJbeIbdObgFBEbkJbeHbdPbgFBEbkJbeIb",
      "dPbgFBEbkJbeHbgCbgFBEbkJbeIbgCbgFBDbjDbeHbgFBDbjDbeIbgFBEbjDbeHbdObgFBEbjDbeIbdObgFBEbj",
      "DbeHbdPbgFBEbjDbeIbdPbgFBEbjDbeHbgCbgFBEbjDbeIbgCbgFBDbkPbeHbgFBDbkPbeIbgFBEbkPbeHbdObg",
      "FBEbkPbeIbdObgFBEbkPbeHbdPbgFBEbkPbeIbdPbgFBEbkPbeHbgCbgFBEbkPbeIbgCbgFBDbjJbeHbgFBDbjJ",
      "beIbgFBEbjJbeHbdObgFBEbjJbeIbdObgFBEbjJbeHbdPbgFBEbjJbeIbdPbgFBEbjJbeHbgCbgFBEbjJbeIbgC",
      "bgFBDblHbeHbgFBDblHbeIbgFBEblHbeHbdObgFBEblHbeIbdObgFBEblHbeHbdPbgFBEblHbeIbdPbgFBEblHb",
      "eHbgCbgFBEblHbeIbgCbgFBDbkBbeHbgFBDbkBbeIbgFBEbkBbeHbdObgFBEbkBbeIbdObgFBEbkBbeHbdPbgFB",
      "EbkBbeIbdPbgFBEbkBbeHbgCbgFBEbkBbeIbgCbgFBCbkJbdUBCbkJbdSBDbkJbdObgFBCbkJbgFBDbkJbdPbgF",
      "CCbkJbgCBDbkJbgCbgFBCbjDbdUBCbjDbdSBCbjDbdOBCbjDbdPBCbjDbgFCBbkRDCgMbgCBDbkPbdObgFBCbkP",
      "bgFBDbkPbdPbgFCCbkPbgCBDbkPbgCbgFBCbjHbdOBCbjHbdPBCbjJbdOBCbjJbdPBCbjJbgFBCmaPbdOBCmaPb",
      "dPBCmaPbgCBCbkRbdUBCbkRbdSBDbkRbdWbdOBDbkRbdWbdPDCbkRbgCBDbkRbdWbgCBCbjLbdUBCbjLbdSBCbj",
      "LbdOBCbjLbdPCCmdAbdOBCmdAbdPBCmdAbgCBCblDbdUBCblDbdSBDblDbdWbdOBDblDbdWbdPBCbkZbeHBCbkZ",
      "beIBCblDbgCBDblDbdWbgCBCbjXbdUBCbjXbdSBCbjXbdOBCbjXbdPBCbjTbeIBCgMbdOBCgMbdPBBdSDDblHbd",
      "ObgFBCblHbgFBDblHbdPbgFCCblHbgCBDblHbgCbgFBCbjRbdOBCbjRbdPBCbkBbdOBCbkBbdPBCbkBbgFBBgYD",
      "BmdEBBmdFlHBbkBEBcXBCcNbdYeHCmsMbfSBCmsObfSTCmsQbfSbFCmuYbfSBCmvCbfSBCmvAbfScBCmwXbfSFC",
      "mxCbfSDCmxFbfSYCmyDbfSCCmyFbfSbBCmzCbfSDCmzJbfSDCmzLbfSCCmzObfSXCcJbfSCCnaNbfSLCmzTbfSB",
      "CcIbfSBCcKbfSBCnaQbfSBCnaRbfSDCnbEbfSBCnbFbfSDCnbIbfSBCnbJbfSHCnbMbfSBCnbNbfSDCnbUbfSBC",
      "nbVbfSDCnbYbfSBCnbZbfSbJCndAbfSBCndGbfSBCndHbfSBCndJbfSbXCnbObfSBCnbPbfSBCncJbfSBCncKbf",
      "SHCndQbfSBCndRbfSBCndSbfSBCndTbfScIBseYBBseZcxUCqgBbfScbOCshNskNCCshPskNCCshRskNCCshTsk",
      "NCCshVskNCCshXskNCCshZskNCCsiBskNCCsiDskNCCsiFskNCCsiHskNCCsiJskNDCsiMskNCCsiOskNCCsiQs",
      "kNHCsiXskNBCsiXskOCCsjAskNBCsjAskOCCsjDskNBCsjDskOCCsjGskNBCsjGskOCCsjJskNBCsjJskOXCshI",
      "skNKCskRskNOCslFskNCCslHskNCCslJskNCCslLskNCCslNskNCCslPskNCCslRskNCCslTskNCCslVskNCCsl",
      "XskNCCslZskNCCsmBskNDCsmEskNCCsmGskNCCsmIskNHCsmPskNBCsmPskOCCsmSskNBCsmSskOCCsmVskNBCs",
      "mVskOCCsmYskNBCsmYskOCCsnBskNBCsnBskOXCslAskNDCsnVskNBCsnWskNBCsnXskNBCsnYskNECsoJskNcx",
      "tIBcbdGBBbmzSBBccbYBBcbiEBBbpzDBBbdpYBBbfuBBBcilOBBcilOBBbhvLBBcdfTBBbgkDBBbhvCBBblcOBB",
      "bsvXBBbwhPBBbyvVBBbzkKBBbzwQBBcctJBBbodUBBbpiHBBbqtDBBbrwWBBbycBBBcdbUBBcghTBBbdtABBbfp",
      "TBBbonSBBbrfNBBbyvDBBchwWBBbjiUBBbqjZBBbyrLBBcaaUBBblkRBBbxeMBBbzoHBBbjxIBBbnbBBBbplIBB",
      "broEBBccvUBBbedABBbeyPBBbfjYBBbmeEBBbolVBBbrfCBBbtaTBBbwmJBBbytQBBbywYBBcbtNBBcfgSBBcgw",
      "LBBchvMBBbtqYBBbuaHBBbvoYBBbxxPBBcdrOBBciaPBBcapABBbhrBBBbjzOBBbvcQBBbwrEBBbriGBBbttIBB",
      "cbhYBBcfeLBBbhqUBBbizQBBboeLBBbppQBBbqbNBBbvkPBBbvuTBBcexVBBbfjMBBbwrRBBbfaABBbezKBBbug",
      "IBBbvqCBBbxzDBBcezLBBcavOBBblkXBBbodUBBcaqOBBbdqFBBbiuXBBbkjYBBbrtNBBbsmIBBbfmDBBbtvFBB",
      "befFBBbkfXBBbdoNBBbpfGBBbmlCBBbvkCBBbfsTBBbhmCBBbtbTBBbycNBBcanIBBbouSBBcckUBBbpcQBBblm",
      "SBBbxoVBBblsYBBbslXBBbduSBBbevPBBbezHBBbnoZBBbvhVBBbxkHBBcaoWBBcdfRBBbfkVBBbfxQBBbhwTBB",
      "bjyQBBbmoBBBbqkSBBbtxABBcerTBBcgmKBBcibNBBcidQBBbfhJBBbmxYBBbosDBBcchUBBbjuABBbkyQBBblc",
      "YBBbmcOBBbqcHBBbqxLBBbsdLBBbudEBBbvsEBBbwqPBBccfMBBbyiWBBccpFBBcduGBBbfcHBBbfhRBBbgcJBB",
      "bqsMBBbzuOBBcanIBBbjxHBBbkiVBBblrNBBbouGBBbvbIBBbrsVBBbdwUBBbgyJBBbiuXBBbjmWBBbkkIBBbrv",
      "EBBbscFBBbwiKBBbwpABBcdjOBBcfeKBBcfhOBBcfpOBBbedFBBbucCBBcdeQBBcfcABBbkrXBBbdtEBBbeqCBB",
      "bivEBBbiyHBBbmmJBBbodUBBbrcOBBbsuKBBbyjKBBccsQBBcikZBBbmvOBBcewSBBbfgRBBbneXBBbnjNBBbpj",
      "TBBbpxCBBbryNBBbslLBBbtpRBBbvjKBBcfsGBBbevTBBbleSBBcezOBBbejJBBbjgRBBbpqGBBccfQBBbkeTBB",
      "bkvSBBbnkXBBbrtNBBcfaCBBbfcZBBbfvRBBbizTBBbmrBBBbndEBBbnqMBBbpgFBBbryKBBbsqSBBbwhDBBbzv",
      "BBBbzvTBBcdfOBBcfdQBBbfnRBBbpyGBBbfwFBBbrcQBBbseABBbytEBBcfbFBBchfJBBcibVBBbnfZBBbppBBB",
      "bxfCBBbunBBBbuqIBBbveOBBbrlWBBbqqRBBcauABBbdvKBBbxrYBBbfdQBBbfbRBBbjvYBBbllBBBbvhEBBbir",
      "DBBbpiKBBbmxGBBccgHBBbzqABBcexXBBcacHBBbjxRBBbeuABBbgmIDBbhlYCBbmuUDBbfaCBBbrpYBBbszQBB",
      "btxSBBbtzABBbtzHBBbuaXBBcfiCBBbvgGBBbwjTCBbyuCCBcaqIDBccqABBccxPEBcfxVBBcfyIBBcgaABBchs",
      "UBBccwKBBcfbZBBbeeOBBbeqPBBbeuNBBbfjDBBbfkEBBbfoJBBbgkZBBbgpABBbgsUBBbhkYBBbhoYBBbizSBB",
      "bjaCBBbkoYBBbkxCBBbkyOBBblcKBBbmjNBBbmpEBBbmvXBBbnpDBBbplVBBbpsCBBbqcGBBbqyWBBbrgDBBbrz",
      "MBBbtrDBBbtxUBBbtyFBBbtyEBBbtyMBBbtySBBbtyZBBbuaVBBbuaWBBbuhSBBbukFBBbuwMBBbvsEBBbvsZBB",
      "bvvDBBbwgWBBbwmNBBbxfHBBbxkRBBbxkRBBbydBBBbzxOBBcacSBBcaqRBBcasVBBcbiPBBcbkQBBcclABBccq",
      "ABBcfdRBBcfoPBBcfqXBBbknTBBilgGBBbxgYDBbdpMBBbeyNBBbevOBBbecUBBbeuFBBbewMBBbfjBBBbflABB",
      "bgkZBBbgiFBBbgkVBBbgnQBBbhlYBBbhpJBBbhuYBBbhvOBBbifYBBbinOBBbjxQBBbjxXBBbkdLBBbkgBBBbkr",
      "OBBbkwCBBbktKBBbkyOBBbkwUBBblcKBBbleYBBbluIBBblxSBBblzUBBbmjUBBbmuUBBbnbBBBbnbFBBbndMBB",
      "bosFBBbouSBBbpjTBBbpzNBBbpyXBBbqcGBBbqlYBBbqyWBBbtiDBBbrgNBBbrlFBBbrpYBBbscNBBbsiGBBbsk",
      "HBBbssZBBbstBBBbszQBBbtaHBBbtbGBBbteOBBbteEBBbttKBBbumBBBbuwMBBbvdRBBbvmHBBbvsEBBbweWBB",
      "bwmNBBbxtABBbxzBBBbzhXBBbzzLBBcacCBBcacSBBcaoDBBcaqIBBcaoPBBcaqRBBcaqOBBcapXBBcasVBBcav",
      "YBBcbkQBBccgEBBccsGBBcddPBBcdmCBBcezSBBcfdRBBcfiCBBcfnFBBcfoPBBcfpBBBcfqXBBcgsWBBcilOBB",
      "ibdYBBibdSBBifnPBBwoZBByhCBByiJBBirbLBBivbCBBjhxZBBciiDBBcilAcQCcfPceECCcgOceHLCcgFceRB",
      "CcgFceSBDcgFceMceRBDcgFceMceSBCcfGceHBCcfGceIBCcfGceMBCcfHceMBCcfIceMBCcfJceMBCcfKceMBC",
      "cfLceMBCcfMceMCCcfOceMBCcfPceMBCcfQceMBCcfRceMBCcfSceMCCcfUceMCCcfWceMBCcfXceMCCcfZceMB",
      "CcgAceMCCcgCceMBCcgDceMBCcgEceMBCcgFceMBCcgGceMBCcfLceJBCcfHcePBCcfRcePBCcgAcePdzFCdvdY",
      "bdVbBCdveGbdVebMCdzgBdzhICCdzgDdzhIPCdzgNdzhIfBCdzlXdzlNBCdzlYdzlNuUCeagLeagCBCeagLeahB",
      "cDCeaiSealLCCeaiUeakXJCeajBealEDCeajGealLcACealEealECCealEeakUBCealEealLjJCeauReauSBCea",
      "uReauICCeauReauVjSCebeMebeDBCebeNebeDbiJCecmVecmQbbgBCfdsWfdsWBCfdsWfdtHBCfdsWfdsXBCfdt",
      "HfdsXBCfdsWfdsYBDfdsWfdsWfdsXBDfdsWfdtHfdsXBDfdsWfdsWfdsYeqQCfijVfijVBCfijRfijVBDfijRfi",
      "jVfijVblwECgufVgugJBCgufWgugJBDgufWgugJgugSBDgufWgugJgugTBDgufWgugJgugUBDgufWgugJgugVBD",
      "gufWgugJgugWdJCgujPgugJBCgujQgugJBDgujPgugJgugSBDgujQgugJgugSBDgujPgugJgugTBDgujQgugJgu",
      "gTehlGBbdqJBBbdqEBBbdqNBBhmiKBBbebOBBbeeOBBbefBBBbehUBBbemKBBbenPBBbeqPBBbepRBBtyCBBhog",
      "OBBbeuNBBbeuUBBbevKBBbewDBBhnvOBBtzDBBbevNBBbewZBBhnxJBBbexJBBbexWBBbdvWBBbeyEBBbeyNBBj",
      "pdNBBbfaZBBbfbNBBuaPBBbfdRBBbfeCBBbffUBBbffZBBucRBBbfjBBBbfjDBBbfkEBBbflABBbflLBBbflMBB",
      "bfmDBBbfoBBBbfoJBBbfoSBBbfpRBBbfqBBBbfqDBBbfqDBBbfqDBBhptKBBbqpCBBbftABBbftVBBhqfJBBbfu",
      "HBBbfuNBBbfvIBBbgbEBBbfxGBBbfxWBBbfzCBBbgbIBBbgeOBBbgfOBBbgiDBBbgiTBBbgkABBbgkABBbgkVBB",
      "bglNBBbglVBBbgmKBBbgzMBBbgpABBbgzNBBbgrXBBbgtGBBbfbRBBbhrQBBbhgOBBbhiABBbhiZBBbhdZBBbhk",
      "KBBbhkJBBbhpCBBhtuYBBbhrUBBbhrZBBbhsOBBbhtIBBbhtQBBbhwCBBhumIBBhuoWBBbibKBBbidFBBbidRBB",
      "biaQBBbigCBBuuWBBuvKBBbimIBBbioKBBbioKBBhvrCBBbitNBBbiuIBBbiuXBBbivJBBhweABBbivVBBbiwCB",
      "BbkcPBBbixEBBvaNBBbizOBBbjaCBBbjdGBBbjbHBBhxfOBBbjiHBBhxfQBBbjjYBBbjjVBBbjkMBBbjoJBBbjo",
      "KBBvhFBBbjpLBBbjrCBBbjrXBBbjtPBBvjEBBhypFBBvkEBBbjwIBBbjwLBBbjwOBBbjxIBBjvvUBBbjzIBBhzf",
      "TBBhzfTBBbxgBBBbkaSBBbkaSBBvnBBBifcQBBiwySBBbkdEBBbkdNBBvoDBBbkfIBBbkhHBBbkhRBBbkiZBBbk",
      "oFBBvrMBBvqIBBbkoYBBiapOBBbkqXBBbkvWBBbkwABBbkwCBBbkwABBbkxUBBbkyOBBbkzYBBbkzKBBbkzVBBb",
      "lbQBBblcKBBblcOBBbldOBBbldZBBblgNBBbljTBBbllCBBblpWBBicfCBBblpDBBblmQBBblqUBBblrVBBblvO",
      "BBicnXBBblxYBBbluJBBbltHBBwaWBBbmaRBBbmbMBBbmcRBBbmbFBBwdGBBbmjNBBbmkQBBiecGBBbmpFBBbmz",
      "WBBbmtDBBwjXBBbmvXBBwjGBBwhWBBbexEBBbexHBBbnaEBBbmwIBBbwsZBBzsBBBbnbBBBbnbFBBbnbLBBbndU",
      "BBbndJBBifmXBBwlTBBbnjUBBbnfHBBbnnEBBbnpDBBiftLBBbnpMBBbnlFBBbnuQBBwoZBBbnwKBBboaDBBboc",
      "WBBbokEBBigpFBBbomDBBwtSBBbooVBBihjBBBboqUBBwvUBBborYBBbotRBBbouSBBbouTBBiibTBBhwxFBBii",
      "fYBBbpaKBBiixGBBbpeTBBbpfHBBbpbJBBbpiCBBbpjQBBbplVBBbpjTBBbplHBBbplWBBbpmJBBijbABBbpjGB",
      "BbpsXBBbpvIBBxePBBbpyXBBbpyTBBijrTBBbpqVBBbqfEBBijxEBBijzABBbqiOBBbqmZBBbqlYBBbqlVBBxiK",
      "BBbqnQBBbqpPBBbqpJBBbqrLBBhnvXBBbqxHBBilaXBBbraQBBilnNBBbrgABBbrgNBBbrhOBBimkUBBbrjKBBb",
      "rkFBBimwJBBineYBBbrtABBbrtRBBxtCBBbruRBBxtOBBxtOBBbsaXBBbsbSBBbscNBBbsdHBBbsfYBBxxJBBbs",
      "jKBBiotQBBbskKBBioxEBBbsmIBBhyqHBBbssMBBiqbHBBiqcEBBiqhOBBygABBygMBBbtbGBBiqoHBBiqoGBBi",
      "qpTBBiqqTBBbtcWBBbtcXBBbtcXBBbteOBByiJBBbthBBByiWBBylYBBirtLBBbtoOBBbtqYBBbttKBByoXBBis",
      "nMBBbtySBBisrYBBistPBBbuaXBBbueLBByrVBBbuhSBBbuiCBBbuiHBBituIBBiufVBBiufVBBbuoKBByzYBBi",
      "upVBBbuwSBBbuwVBBzbJBBiuyABBbvhABBzgABBbvhWBBbvhRBBbviUBBiwbUBBbvmPBBzjTBBbvqLBBbvsSBBb",
      "vvHBBzlSBBixbSBBixcXBBznDBBixiNBBbwhEBBixmKBBbwiFBBbwmCBBbwmNBBiycGBBiyfBBBbwqABBiykEBB",
      "bwqQBBifjBBBzrXBBbwtEBBbwwHBBztZBBbwyOBBbijDBBizdVBBizeJBBiflBBBiflKBBbxgBBBbxgEBBcckCB",
      "BzxRBBbxlPBBbxlJBBbxmBBBbfiHBBbxmVBBbxmXBBbxnHBBbxoWBBjanCBBbxoVBBbxqZBBbxtRBBbxwNBBbxr",
      "FBBbxxDBBbxyTBBbydBBBbxtBBBbxxQBBbxxSBBbxyIBBjawSBBjbiPBBjbcVBBbafBBBbyiZBBbyjBBBbykKBB",
      "jdtIBBbynKBBjbzWBBbagZBBbahDBBjceZBBjcqCBBbahNBBbywMBBbywYBBbyxJBBbyxLBBbyzXBBbyyQBBbzd",
      "UBBbzcCBBbzhXBBbzeUBBbzhJBBbziKBBbalRBBbzlXBBbznDBBbamZBBbzqUBBbzqXBBjetBBBbzvJBBbzvQBB",
      "bapHBBbzwSBBtzFBBjfpMBBjfwOBBbauOBBbauXBBcamYBBcapXBBcavYBBcbdTBBjhcQBBcbhBBBcbhXBBcblJ",
      "BBcboXBBjibNBBhoyEBBcbsDBBcbrOBBcbtOBBhpgOBBcccIBBccgEBBjkoWBBjkpXBBcctOBBccxDBBccyJBBj",
      "lcGBBccyTBBcdjSBBcdpVBBcdpWBBcdmIBBceaZBBcecBBBjmxMBBceqLBBbbwNBBcesDBBjnmDBBbbzQBBcfcL",
      "BBbjmOBBcfgDBBjoxPBBjpfUBBbceWBBbcfEBBcfnKBBjpyWBBbchMBBjqeGBBcfpBBBcfpBBBcfqFBBjqpIBBc",
      "fxIBBbcmLBBcgaBBBcgeXBBcgfYBBcgiGBBbcsKBBjsrGBBcgsWBBcheMBBchlTBBbdcGBBbddLBBchpVBBjuuO",
      "BBbddWBBjuwRBBjvgWBBjvlXBBcicXBBbdhMBBcifHBBcifMBBcifTBBcigDBBcigKBBcihVBBjwtS"])
  .ofList (decompositionsFrom 0 row.length row)

/-- The compositions of a row: the gap to the first character, the second, and the composed one. -/
def compositionsFrom (start : Nat) : List Nat → List ((Nat × Nat) × Nat)
  | gap :: second :: composed :: rest =>
    ((start + gap, second), composed) :: compositionsFrom (start + gap) rest
  | _ => []

/-- The pairs of characters that compose, with the character they compose to. -/
def compositions : Std.HashMap (Nat × Nat) Nat :=
  .ofList (compositionsFrom 0 (numbers
    (String.join [
      "cIbfSnbABbfSnaMBbfSnbBDbdOhKAbdPhLAbdQhMAbdRhNAbdSjWAbdUjYAbdVvEAbdWhOAbdXlpQAbdYhPAbeA",
      "rTAbeDtSAbeFtUAbeXlpOAbeZljKAbfCkABbdVljMAbeXljOAbfLljQBbdPkCAbdQkEAbdVkGAbeAkIAbfBhRBb",
      "dVljUAbeAkKAbeXljWAbfBlkAAbfHlkCAbfLljYBbdOhSAbdPhTAbdQhUAbdRlqQAbdSkOAbdUkQAbdVkSAbdWh",
      "VAbdXlqOAbeAkWAbeDtWAbeFtYAbeXlqMAbfBvGAbfCkUAbfHlkIAbfKlkKBbdVlkOBbdPtGAbdQkYAbdSlkQAb",
      "dUlAAbdVlCAbeAsSAbfBlEBbdQlGAbdVlkSAbdWlkWAbeAuWAbeXlkUAbfBlkYAbfIllABbdOhWAbdPhXAbdQhY",
      "AbdRlKAbdSlMAbdUlOAbdVlSAbdWhZAbdXlrCAbeArVAbeDuAAbeFuCAbeXlrEAbfClQAbfKllCBbdQlWBbdPll",
      "GAbeAsUAbeXllIAbfBlYAbfLllKBbdPmBAbeAmFAbeXllMAbfBmDAbfHllSAbfLllQBbdPllUAbdVllWAbeXllY",
      "BbdOtKAbdPmLAbdRiBAbdVlmAAbeAmPAbeXlmCAbfBmNAbfHlmGAbfLlmEBbdOiCAbdPiDAbdQiEAbdRiFAbdSm",
      "UAbdUmWAbdVvMAbdWiGAbdXlrIAbdZmYAbeArXAbeDuEAbeFuGAbePqAAbeXlrGAbfCsWBbdPlmQAbdVlmSCbdP",
      "nCAbdVlmUAbeAnGAbeDuIAbeFuKAbeXlmWAbfBnEAbfLlnABbdPnIAbdQnKAbdVlnCAbeAnOAbeXlnEAbfAuQAb",
      "fBnMBbdVlnMAbeAnSAbeXlnOAbfAuSAbfBnQAbfHlnSAbfLlnQBbdOiJAbdPiKAbdQiLAbdRnWAbdSnYAbdUoAA",
      "bdWiMAbdXlsGAbdYoCAbdZoEAbeArZAbeDuMAbeFuOAbePqPAbeXlsEAbeYlnUAbfCoGAbfHlnYAbfKlnWBbdRl",
      "oEAbeXloGBbdOloIAbdPloKAbdQoIAbdVloOAbdWloMAbeXloQBbdVloSAbdWloUBbdOlsSAbdPiNAbdQoKAbdR",
      "lsYAbdSvQAbdVloWAbdWoMAbdXlsWAbeXlsUBbdPoNAbdQloYAbdVoPAbeAoRAbeXlpAAbfLlpCHbdOiQAbdPiR",
      "AbdQiSAbdRiTAbdSjXAbdUjZAbdVvFAbdWiUAbdXlpRAbdYiVAbeArUAbeDtTAbeFtVAbeXlpPAbeZljLAbfCkB",
      "BbdVljNAbeXljPAbfLljRBbdPkDAbdQkFAbdVkHAbeAkJAbfBiXBbdVljVAbeAkLAbeXljXAbfBlkBAbfHlkDAb",
      "fLljZBbdOiYAbdPiZAbdQjAAbdRlqRAbdSkPAbdUkRAbdVkTAbdWjBAbdXlqPAbeAkXAbeDtXAbeFtZAbeXlqNA",
      "bfBvHAbfCkVAbfHlkJAbfKlkLBbdVlkPBbdPtHAbdQkZAbdSlkRAbdUlBAbdVlDAbeAsTAbfBlFBbdQlHAbdVlk",
      "TAbdWlkXAbeAuXAbeXlkVAbfBlkZAbfIllBAbfLlpEBbdOjCAbdPjDAbdQjEAbdRlLAbdSlNAbdUlPAbdWjFAbd",
      "XlrDAbeArWAbeDuBAbeFuDAbeXlrFAbfClRAbfKllDBbdQlXAbeAtCBbdPllHAbeAsVAbeXllJAbfBlZAbfLllL",
      "BbdPmCAbeAmGAbeXllNAbfBmEAbfHllTAbfLllRBbdPllVAbdVllXAbeXllZBbdOtLAbdPmMAbdRjHAbdVlmBAb",
      "eAmQAbeXlmDAbfBmOAbfHlmHAbfLlmFBbdOjIAbdPjJAbdQjKAbdRjLAbdSmVAbdUmXAbdVvNAbdWjMAbdXlrJA",
      "bdZmZAbeArYAbeDuFAbeFuHAbePqBAbeXlrHAbfCsXBbdPlmRAbdVlmTCbdPnDAbdVlmVAbeAnHAbeDuJAbeFuL",
      "AbeXlmXAbfBnFAbfLlnBBbdPnJAbdQnLAbdVlnDAbeAnPAbeXlnFAbfAuRAbfBnNBbdVlnNAbdWlpFAbeAnTAbe",
      "XlnPAbfAuTAbfBnRAbfHlnTAbfLlnRBbdOjPAbdPjQAbdQjRAbdRnXAbdSnZAbdUoBAbdWjSAbdXlsHAbdYoDAb",
      "dZoFAbeAsAAbeDuNAbeFuPAbePqQAbeXlsFAbeYlnVAbfCoHAbfHlnZAbfKlnXBbdRloFAbeXloHBbdOloJAbdP",
      "loLAbdQoJAbdVloPAbdWloNAbdYlpGAbeXloRBbdVloTAbdWloVBbdOlsTAbdPjTAbdQoLAbdRlsZAbdSvRAbdV",
      "loXAbdWjVAbdXlsXAbdYlpHAbeXlsVBbdPoOAbdQloZAbdVoQAbeAoSAbeXlpBAbfLlpDbUbdOmcJAbdPbiRAbg",
      "CmaRbAbdOlpUAbdPlpSAbdRlpYAbdXlpWCbdSsKBbdPtMBbdPtOAbdSsOBbdPljSDbdOlqUAbdPlqSAbdRlqYAb",
      "dXlqWFbdPllEFbdOlrMAbdPlrKAbdRlrQAbdXlrOBbdPlmIAbdSvKAbdWlmKBbdSvICbdPtQEbdOsHAbdPsDAbd",
      "SsBAbeAsFGbdOlpVAbdPlpTAbdRlpZAbdXlpXCbdSsLBbdPtNBbdPtPAbdSsPBbdPljTDbdOlqVAbdPlqTAbdRl",
      "qZAbdXlqXFbdPllFFbdOlrNAbdPlrLAbdRlrRAbdXlrPBbdPlmJAbdSvLAbdWlmLBbdSvJCbdPtREbdOsIAbdPs",
      "EAbdSsCAbeAsGGbdOlqEAbdPlqCAbdRlqIAbdXlqGBbdOlqFAbdPlqDAbdRlqJAbdXlqHPbdOlkEAbdPlkGBbdO",
      "lkFAbdPlkHcFbdOlmMAbdPlmOBbdOlmNAbdPlmPNbdVlnGBbdVlnHFbdVlnIBbdVlnJHbdPloABbdPloBBbdWlo",
      "CBbdWloDUbdVlpJbHbdOlrWAbdPlrUAbdRlsAAbdXlrYAbeXlsCBbdOlrXAbdPlrVAbdRlsBAbdXlrZAbeXlsDO",
      "bdOlsKAbdPlsIAbdRlsOAbdXlsMAbeXlsQBbdOlsLAbdPlsJAbdRlsPAbdXlsNAbeXlsRHbeAtAbZbdSsYBbdSs",
      "ZcHbdSsMBbdSsNBbdUlkMBbdUlkNFbdSvOBbdSvPdVbeAtBjVbdOmaKAbdPbiSAbdSmaJAbdUmaIAbeHltOAbeI",
      "ltPAbgFmaMEbdOmaYAbdPbiUAbeHluEAbeIluFCbdOmbAAbdPbiVAbeHluUAbeIluVAbgFmbCCbdOmbQAbdPbiW",
      "AbdSmbPAbdUmbOAbdWbkCAbeHlvKAbeIlvLGbdOmcUAbdPbiYAbeHlwAAbeIlwBCbeImcIEbdOmcGAbdPbjAAbd",
      "SmcFAbdUmcEAbdWbkDAbeIlwREbdOmcWAbdPbjBAbeHlxGAbeIlxHAbgFmcYDbgFmaECbgFmaUDbdOlxOAbdPbk",
      "EAbdSmaBAbdUmaAAbeHltGAbeIltHAbgCmaGAbgFmaDEbdOlxQAbdPbkFAbeHltWAbeIltXCbdOlxSAbdPbkGAb",
      "eHluMAbeIluNAbgCmaWAbgFmaTCbdOlxUAbdPbkHAbdSmbHAbdUmbGAbdWblIAbeHlvCAbeIlvDAbgCmbMGbdOl",
      "xWAbdPblKAbeHlvSAbeIlvTCbeHmcAAbeImcBEbdOlxYAbdPblLAbdSmbXAbdUmbWAbdWblJAbeHlwIAbeIlwJA",
      "bgCmcCEbdOlyAAbdPblMAbeHlwYAbeIlwZAbgCmcSAbgFmcPBbdOmbIAbdPbjCAbgCmbNBbdOmbYAbdPbkIAbgC",
      "mcDDbgFmcQEbdPblRAbdWblScAbdWbnRKbdUbvKAbdWbvMDbdPbnNCbdObnKAbdUbvQAbdWbnLBbdUbuVAbdWbv",
      "WBbdWbvYBbdObnXAbdSbwCAbdUboJAbdWbwECbdPbnWEbdWbwGFbdSbwOAbdUbnYAbdWbwQAbdZbwSEbdWbwUEb",
      "dWbwYCbdWbwMDbdUbvLAbdWbvNDbdPbqPCbdObqMAbdUbvRAbdWbqNBbdUbuWAbdWbvXBbdWbvZBbdObqZAbdSb",
      "wDAbdUbpPAbdWbwFCbdPbqYEbdWbwHFbdSbwPAbdUbrAAbdWbwRAbdZbwTEbdWbwVEbdWbwZCbdWbwNJbdWbqTb",
      "EbeDbrYBbeDbrZdVbdWbvUBbdWbvVPbdWbwKBbdWbwLmGckHciKAckIciLAckJciNbHckIciMCckIciOePckIco",
      "ORckIcpFDckIcoMwXdmYdmFIdmYdmNDdmYdmQfSdrYdsLAdsXdsMoUegSehFAehQehCAehRehGcXemPekAcAelQ",
      "emCAemPemEBelQemDeXerMeqYeRewJevOHevQevYAewJevVAewKevWEewJevZeUfaKfaWAfbJfaYBfaKfaXfQff",
      "UfgKAffZfgMAfgPfgODffUfgNwNgdIgdAedCkhXkgCCkhXkgECkhXkgGCkhXkgICkhXkgKEkhXkgObPkhXkiDCk",
      "hXkiFCkhXkiIBkhXkiJDkhXkiLbdCbdSllOBbdSllPbJbdSlmYBbdSlmZHbdVlnKBbdVlnLcJbdQlqAAbdUlqKB",
      "bdQlqBAbdUlqLXbdQlrABbdQlrBTbdQlrSBbdQlrTbZbdOltIAbdPltKAbgCltMAbgFlyEBbdOltJAbdPltLAbg",
      "CltNAbgFlyFBbgFlyGBbgFlyHBbgFlyIBbgFlyJBbgFlyKBbgFlyLBbdOltQAbdPltSAbgCltUAbgFlyMBbdOlt",
      "RAbdPltTAbgCltVAbgFlyNBbgFlyOBbgFlyPBbgFlyQBbgFlyRBbgFlySBbgFlyTBbdOltYAbdPluABbdOltZAb",
      "dPluBHbdOluGAbdPluIBbdOluHAbdPluJHbdOluOAbdPluQAbgCluSAbgFlyUBbdOluPAbdPluRAbgCluTAbgFl",
      "yVBbgFlyWBbgFlyXBbgFlyYBbgFlyZBbgFlzABbgFlzBBbdOluWAbdPluYAbgClvAAbgFlzCBbdOluXAbdPluZA",
      "bgClvBAbgFlzDBbgFlzEBbgFlzFBbgFlzGBbgFlzHBbgFlzIBbgFlzJBbdOlvEAbdPlvGAbgClvIBbdOlvFAbdP",
      "lvHAbgClvJHbdOlvMAbdPlvOAbgClvQBbdOlvNAbdPlvPAbgClvRHbdOlvUAbdPlvWBbdOlvVAbdPlvXHbdOlwC",
      "AbdPlwEBbdOlwDAbdPlwFHbdOlwKAbdPlwMAbgClwOBbdOlwLAbdPlwNAbgClwPIbdOlwTAbdPlwVAbgClwXHbd",
      "OlxAAbdPlxCAbgClxEAbgFlzKBbdOlxBAbdPlxDAbgClxFAbgFlzLBbgFlzMBbgFlzNBbgFlzOBbgFlzPBbgFlz",
      "QBbgFlzRBbdOlxIAbdPlxKAbgClxMAbgFlzSBbdOlxJAbdPlxLAbgClxNAbgFlzTBbgFlzUBbgFlzVBbgFlzWBb",
      "gFlzXBbgFlzYBbgFlzZBbgFmaCEbgFmaSIbgFmcOcGbgFmaHJbdOmbDAbdPmbEAbgCmbFHbgFmaXbWbgFmcTIbd",
      "OmbTAbdPmbUAbgCmbVpMbfSmsWCbfSmsXCbfSmtQcIbfSmuVCbfSmuXCbfSmuWbVbfSmwYFbfSmxDDbfSmxGYbf",
      "SmyECbfSmyGXbfSmzHHbfSmzKCbfSmzNDbfSmzPFbfSnaZUbfSnaODbfSnbCBbfSnbDNbfSnbGBbfSnbHDbfSnb",
      "KBbfSnbLDbfSnbSBbfSnbTBbfSnfKBbfSnfLFbfSnbWBbfSnbXDbfSncABbfSncBKbfSnfMBbfSnfNQbfSndKGb",
      "fSndLBbfSndMCbfSndNHbfSnfUBbfSnfVBbfSnfWBbfSnfXfdPskNskIFskNshOCskNshQCskNshSCskNshUCsk",
      "NshWCskNshYCskNsiACskNsiCCskNsiECskNsiGCskNsiICskNsiKDskNsiNCskNsiPCskNsiRHskNsiYAskOsi",
      "ZDskNsjBAskOsjCDskNsjEAskOsjFDskNsjHAskOsjIDskNsjKAskOsjLbIskNskSJskNsoAFskNslGCskNslIC",
      "skNslKCskNslMCskNslOCskNslQCskNslSCskNslUCskNslWCskNslYCskNsmACskNsmCDskNsmFCskNsmHCskN",
      "smJHskNsmQAskOsmRDskNsmTAskOsmUDskNsmWAskOsmXDskNsmZAskOsnADskNsnCAskOsnDUskNsoDBskNsoE",
      "BskNsoFBskNsoGLskNsoKdcpPbdVdvdPIbdVdveQebVdzhIdzgCCdzhIdzgEKdzhIdzgTfKdzlNdzlUBdzlNdzl",
      "VuNeagCeagPAeahBeagQcHealLeaiTCeakXeaiVHealEeajEFealLeajHbYeakUealJAealEealHAealLealKjN",
      "eauIeauUAeauSeauTAeauVeauWjVebeDebeOBebeDebePbiIecmQecmYbbgBfdsWfdsZAfdsXfdtBAfdsYfdtDA",
      "fdtHfdtADfdsXfdtEAfdsYfdtGBfdsXfdtFHfdsXfdtCeqKfijVfijXEfijVfijWCfijVfijY"])))

/-- The combining classes other than zero. -/
def combiningClasses : RangeMap Nat := .ofText
  (String.join [
    "bdOUiWAAiYADiMAAiYAAiIAEiMABhUADiMABhUAKiMAEBADiMAHiWAAjGAAiWACiMACiWABiMBCiWADiMAAiWAAiY",
    "ABiMAAiWAAiZABjAAAiZABjAAAiZAMiWkPEiWkFAiMADiWAAiMACiWAAiOAAiMAFiWAFiMABiWAAiMABiWAAiOAAi",
    "UAAiWAAKAALAAMAANAAOAAPAAQAARAASABTAAUAAVAAWBAXBAYAAZBAiWAAiMBAScUHiWAAbEAAbFAAbGbWAbBAAb",
    "CAAbDAAbEAAbFAAbGAAbHAAbIABiWABiMAEiWAAiMABiWAAiMQAbJdXGiWCDiWAAiMAAiWCBiWBAiMABiWAAiMbJA",
    "bKbEAiWAAiMABiWAAiMABiWACiMAAiWABiMAAiWAAiMACiWAAiMAAiWAAiMAAiWAAiMAAiWAAiMABiWgEGiWAAiMA",
    "AiWJAiMYDiWBIiWBCiWBEiWbRCiMcHBiWACiMADiWbQEiWAEiMANiWBAiMABiWAAiMABiWAAiMACiWACiMAAbBAAb",
    "CAAbDACiWAAiMABiWABiMAEiWcIAHQAJDAiWAAiMABiWdZAHQAJbWAiWcJAHQAJeGAHQAJeGAHQAJeXAJeGAHQAJH",
    "AdGAAdNdXAHQAJeFBJQAJeUAJeFBdZAAJNDeDeEBeOAAJNDeScYBiMbBAiMBAiMBAiIcDAeZAAfABAfCFDfACAfAB",
    "BiWAAJBBiWcKAiMeIAHBBJdEAiMbbRCiWbkMBJbEAJgBAJKAiWhVAiUfNAiOAAiWAAiMiLAiWAAiMcTAJUHiWCAiM",
    "bWEiWAFiMABiWAAiMBBiMABiWABiMAEiWAAiMARiWAAiMCFiWAAiMADiWAAjAcUAHPAJbMAiWAAiMAGiWcCBJcGAH",
    "LBJcPAHfWCiWBABAEiMABiWADiMAAiWBGBEAiMGAiWDBiWhQBiWAAiMAGiWAAiMABiWAAjAAAiGAAiMAAhUAbKiWA",
    "AiYABiUAAiMAAiKAAiWAAiZAAiMAAiWAAiMbbSBiWABBADiWACBABiWEAiWDBBAAiWAAiMAAiWABBADiMAAiWeoCC",
    "iWfLAJdSbFiWvIAiKAAiUAAiYAAiOABiQeBBIbsqEAiWEJiWbGBiWdCBiWkQAJbLAJfVAJbBRiWcFCiMbLAJdRAHM",
    "AJjFAiWBBiWAAiMCBiWFBiWBAiWcAAJjMAJbdzSAbAbdPGiWAGiMABiWblLAiMiSAiMfTEiWcmSAiMBAiWbOAiWAA",
    "BAAiMEAJgJAiWAAiMwBDiWcNEiWmFBiWcZBiMBCiMcSBiMACiWAAiMAAiWADiMbXAiWAAiMAAiWAAiMhKAJbPAJOA",
    "JcFAJAAHcRCiWbWBJcKAHcYAJJAHeCAJAAHgWAHAAJdCBHQAJYGiWDEiWdLCJeJAJDAHXAiWdVAJAAHjRAJAAHeWA",
    "JeOAJAAHeLAJkJAJAAHjYBJEAHgAAJdFAJSAJdDAJqFAJjYAHBBJdDAJqJBJyzCAJdsAEBcHGiWbuNBGbdaYABhwO",
    "BiIACBDAiSAEiIIHiMCEiWABiMbEDiWfSCiWffFGiWBQiWCGiWBBiWBEiWdWAiWgEGiWoLAiWcJDiWtOBiYAAiMAA",
    "iWjUAiWAAiMjJAiWCAiWHBiWFAiWsGGiMeFFiWAAH"])

/-- The combining class of a code point. -/
def combiningClass (n : Nat) : Nat := (combiningClasses.find? n).getD 0

end BrowserShell.Unicode
