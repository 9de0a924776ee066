import BrowserShell.Unicode.Table

/-!
# Simple case folding

Two characters are the same letter in another case when they fold to one character. The table lists
the classes with more than one member; `foldClass c` is the class of `c`. The ASCII letters other
than `k` and `s`, whose classes reach beyond ASCII, are answered without the table.
-/

namespace BrowserShell.Unicode

/-- The classes of the table: the gap to a class's least member, the count of the others, and the
steps from each member to the next. -/
def foldClassesFrom (start : Nat) : (fuel : Nat) → List Nat → List (List Nat)
  | fuel + 1, gap :: count :: rest =>
    let least := start + gap
    let members := (rest.take count).foldl (fun ms step => (ms.headD 0 + step) :: ms) [least]
    members.reverse :: foldClassesFrom least fuel (rest.drop count)
  | _, _ => []

/-- The case classes with more than one member. -/
def foldClasses : List (List Nat) :=
  let row := numbers
    (String.join [
      "cNBbGBBbGBBbGBBbGBBbGBBbGBBbGBBbGBBbGBBbGBCbGmkLBBbGBBbGBBbGBBbGBBbGBBbGBBbGBCbGkIBBbGB",
      "BbGBBbGBBbGBBbGBBbGBBbGdNCbcPbGLBbGBBbGBBbGBBbGBBbGBCbGmfUBBbGBBbGBBbGBBbGBBbGBBbGBBbGB",
      "BbGBBbGBBbGBBbGBBbGBBbGBBbGBBbGBBbGBBbGCBbGBBbGBBbGBBbGBBbGBBbGBBbGBBlgXbGBeRBBBCBBCBBC",
      "BBCBBCBBCBBCBBCBBCBBCBBCBBCBBCBBCBBCBBCBBCBBCBBCBBCBBCBBCBBCBBEBBCBBCBBDBBCBBCBBCBBCBBC",
      "BBCBBCBBDBBCBBCBBCBBCBBCBBCBBCBBCBBCBBCBBCBBCBBCBBCBBCBBCBBCBBCBBCBBCBBCBBCBBDBBCBBCBBD",
      "BhNBBiCBBBCBBCBhYBBBCBhXBBhXBBBDBdBBBhUBBhVBBBCBhXBBhZBBdTBBiDBBiBBBBCBgHBBckyZBBiDBBiF",
      "BBfABBiGBBBCBBCBBCBiKBBBCBiKDBBCBiKBBBCBiJBBiJBBBCBBCBiLBBBEBBDBcEFCBBDCBBDCBBDBBCBBCBB",
      "CBBCBBCBBCBBCBBDBBCBBCBBCBBCBBCBBCBBCBBCBBDCBBDBBEBBCBBCBBCBBCBBCBBCBBCBBCBBCBBCBBCBBCB",
      "BCBBCBBCBBCBBCBBCBBCBBEBBCBBCBBCBBCBBCBBCBBCBBCBBIBpzFBBBDBpzCBBpzZBBpzZBBBDBcRBBcTBBBC",
      "BBCBBCBBCBBCBpyTBBpyQBBpySKBckpRFBckpNDBckqPBBckoEBBckpGEBckpGBBpxFBBckpDFBpxLMBpwPFBck",
      "pFFBckoGWBcknLBBcknIgLDdGbGkpXbRBBCBBEBBFBfABBfABBfACBeMHBbMCBbLBBbLBBbLCBcMCBcLBBcLBBk",
      "sHBBbGBCbGbEBBbGBBbGBCbGcMBBbGBBbGBDbGZbJCCbGcCBBbGCBbGBBbGBBbGBCbGWBCbGbWCCbFBBBbGBBbG",
      "BCbGPBBbGBBbGBCbGldDBBbGBBbGFBkrRbFBIJBBCBBCBBCBBCBBCBBCBBCBBCBBCBBCBBCBBEBHFBBDBBGBdCB",
      "BdCBBdCBBdCBBdCBBdCBBdCBBdCBBdCBBdCBBdCBBdCBBdCBBdCBBdCBBdCBBbGBBbGBCbGjfIBBbGBCbGjfHBB",
      "bGBBbGBBbGBBbGBBbGBBbGBBbGBBbGBBbGBCbGjeYBBbGBBbGBCbGjeWBDbGjeWBBBbGBBbGBBbGBBbGBBbGBBb",
      "GBBbGBCbGjeQBBbGBBbGBBbGBBbGBBbGbXBBCCBjdSCBBCBBCBBCBBCBBCBBCBBCBBCBBCBBCBBCBBCBBCBBCBB",
      "KBBCBBCBBCBBCBBCBBCBBCBBCBBCBBCBBCBBCBBCBBCBBCBBCBBCBBCBBCBBCBBCBBCBBCBBCBBCBBCBBCBPBBB",
      "CBBCBBCBBCBBCBBCBBDBBCBBCBBCBBCBBCBBCBBCBBCBBCBBCBBCBBCBBCBBCBBCBBCBBCBBCBBCBBCBBCBBCBB",
      "CBBCBBCBBCBBCBBCBBCBBCBBCBBCBBCBBCBBCBBCBBCBBCBBCBBCBBCBBCBBCBBCBBCBBCBBCBBDBbWBBbWBBbW",
      "BBbWBBbWBBbWBBbWBBbWBBbWBBbWBBbWBBbWBBbWBBbWBBbWBBbWBBbWBBbWBBbWBBbWBBbWBBbWBBbWBBbWBBb",
      "WBBbWBBbWBBbWBBbWBBbWBBbWBBbWBBbWBBbWBBbWBBbWBBbWBBbWehEBktKBBktKBBktKBBktKBBktKBBktKBB",
      "ktKBBktKBBktKBBktKBBktKBBktKBBktKBBktKBBktKBBktKBBktKBBktKBBktKBBktKBBktKBBktKBBktKBBkt",
      "KBBktKBBktKBBktKBBktKBBktKBBktKBBktKBBktKBBktKBBktKBBktKBBktKBBktKBBktKCBktKGBktKDBelSB",
      "BelSBBelSBBelSBBelSBBelSBBelSBBelSBBelSBBelSBBelSBBelSBBelSBBelSBBelSBBelSBBelSBBelSBBe",
      "lSBBelSBBelSBBelSBBelSBBelSBBelSBBelSBBelSBBelSBBelSBBelSBBelSBBelSBBelSBBelSBBelSBBelS",
      "BBelSBBelSBBelSBBelSBBelSBBelSBBelSDBelSBBelSBBelSzXBcfmUBBcfmUBBcfmUBBcfmUBBcfmUBBcfmU",
      "BBcfmUBBcfmUBBcfmUBBcfmUBBcfmUBBcfmUBBcfmUBBcfmUBBcfmUBBcfmUBBcfmUBBcfmUBBcfmUBBcfmUBBc",
      "fmUBBcfmUBBcfmUBBcfmUBBcfmUBBcfmUBBcfmUBBcfmUBBcfmUBBcfmUBBcfmUBBcfmUBBcfmUBBcfmUBBcfmU",
      "BBcfmUBBcfmUBBcfmUBBcfmUBBcfmUBBcfmUBBcfmUBBcfmUBBcfmUBBcfmUBBcfmUBBcfmUBBcfmUBBcfmUBBc",
      "fmUBBcfmUBBcfmUBBcfmUBBcfmUBBcfmUBBcfmUBBcfmUBBcfmUBBcfmUBBcfmUBBcfmUBBcfmUBBcfmUBBcfmU",
      "BBcfmUBBcfmUBBcfmUBBcfmUBBcfmUBBcfmUBBcfmUBBcfmUBBcfmUBBcfmUBBcfmUBBcfmUBBcfmUBBcfmUBBc",
      "fmUBBcfmUBBIBBIBBIBBIBBIBBIdgLCcaeKBBBBjGBcagYEBfqSRBcaiYeKBBCBBCBBCBBCBBCBBCBBCBBCBBCB",
      "BCBBCBBCBBCBBCBBCBBCBBCBBCBBCBBCBBCBBCBBCBBCBBCBBCBBCBBCBBCBBCBBCBBCBBCBBCBBCBBCBBCBBCB",
      "BCBBCBBCBBCBBCBBCBBCBBCBBCBBCCBcGCBBCBBCBBCBBCBBCBBCBBCBBCBBCBBCBBCBBCBBCBBCBBCBBCBBCBB",
      "CBBCBBCBBCBBCBBCBBCBBCBBMBBCBBCBBCBBCBBCBBCBBCBBCBBCBBCBBCBBCBBCBBCBBCBBCBBCBBCBBCBBCBB",
      "CBBCBBCBBCBBCBBCBBCBBCBBCBBCBBCBBCBBCBBCBBCBBCBBCBBCBBCBBCBBCBBCBBCBBCBBCBBCBBCBBCBIBBI",
      "BBIBBIBBIBBIBBIBBIJBIBBIBBIBBIBBIBBILBIBBIBBIBBIBBIBBIBBIBBIJBIBBIBBIBBIBBIBBIBBIBBIJBI",
      "BBIBBIBBIBBIBBIMBICBICBICBIJBIBBIBBIBBIBBIBBIBBIBBIJBcWBBcWBBdIBBdIBBdIBBdIBBdWBBdWBBeY",
      "BBeYBBeIBBeIBBeWBBeWDBIBBIBBIBBIBBIBBIBBIBBIJBIBBIBBIBBIBBIBBIBBIBBIJBIBBIBBIBBIBBIBBIB",
      "BIBBIJBIBBICBJQBJNBIBBIPBIBBIEBHOBJmHBbCbUBQBBQBBQBBQBBQBBQBBQBBQBBQBBQBBQBBQBBQBBQBBQB",
      "BQUBBbfNBbABBbABBbABBbABBbABBbABBbABBbABBbABBbABBbABBbABBbABBbABBbABBbABBbABBbABBbABBbA",
      "BBbABBbABBbABBbABBbABBbAcsVBbWBBbWBBbWBBbWBBbWBBbWBBbWBBbWBBbWBBbWBBbWBBbWBBbWBBbWBBbWB",
      "BbWBBbWBBbWBBbWBBbWBBbWBBbWBBbWBBbWBBbWBBbWBBbWBBbWBBbWBBbWBBbWBBbWBBbWBBbWBBbWBBbWBBbW",
      "BBbWBBbWBBbWBBbWBBbWBBbWBBbWBBbWBBbWBBbWBBbWbXBBHBBCBBCBBHBBDBBLBBCBBCBBCBBCBBCBBCBBCBB",
      "CBBCBBCBBCBBCBBCBBCBBCBBCBBCBBCBBCBBCBBCBBCBBCBBCBBCBBCBBCBBCBBCBBCBBCBBCBBCBBCBBCBBCBB",
      "CBBCBBCBBCBBCBBCBBCBBCBBCBBCBBCBBCBBCBBJBBCBBFBBbtyKBBCBBCBBCBBCBBEBBCBBCBBCBBCBBCBBCBB",
      "CBBCBBCBBCBBCBBCBBCBBCBBCBBCBBUBBCBBCBBCBBCBBCBBCBBCBBCBBCBBCBBCBBCBBCBBfGBBCBBCBBCBBCB",
      "BCBBCBBEBBCBBCBBCBBCBBCBBCBBCBBCBBCBBCBBCBBCBBCBBCBBCBBCBBCBBCBBCBBCBBCBBCBBCBBCBBCBBCB",
      "BCBBCBBCBBCBBLBBCBBDBBCBBCBBCBBCBBFBBFBBCBBCBbWCBBCBBCBBCBBCBBCBBCBBCBBCBBCBBLBbjSBBBCB",
      "BCBBCBBCBBCBBCBBCBBFBBCBBDBBCBBCBBCBBCBBCBBCBBCBBbBBBbflWBBboMBbGBBbGBBbGBBbGBBbGBBbGBB",
      "bGBBbGBBbGBBbGBBbGBBbGBBbGBBbGBBbGBBbGBBbGBBbGBBbGBBbGBBbGBBbGBBbGBBbGBBbGBBbGbvABbOBBb",
      "OBBbOBBbOBBbOBBbOBBbOBBbOBBbOBBbOBBbOBBbOBBbOBBbOBBbOBBbOBBbOBBbOBBbOBBbOBBbOBBbOBBbOBB",
      "bOBBbOBBbOBBbOBBbOBBbOBBbOBBbOBBbOBBbOBBbOBBbOBBbOBBbOBBbOBBbOBBbOfHBbOBBbOBBbOBBbOBBbO",
      "BBbOBBbOBBbOBBbOBBbOBBbOBBbOBBbOBBbOBBbOBBbOBBbOBBbOBBbOBBbOBBbOBBbOBBbOBBbOBBbOBBbOBBb",
      "OBBbOBBbOBBbOBBbOBBbOBBbOBBbOBBbOBBbOgBBbNBBbNBBbNBBbNBBbNBBbNBBbNBBbNBBbNBBbNBBbNCBbNB",
      "BbNBBbNBBbNBBbNBBbNBBbNBBbNBBbNBBbNBBbNBBbNBBbNBBbNBBbNCBbNBBbNBBbNBBbNBBbNBBbNBBbNCBbN",
      "BBbNcqDBcMBBcMBBcMBBcMBBcMBBcMBBcMBBcMBBcMBBcMBBcMBBcMBBcMBBcMBBcMBBcMBBcMBBcMBBcMBBcMB",
      "BcMBBcMBBcMBBcMBBcMBBcMBBcMBBcMBBcMBBcMBBcMBBcMBBcMBBcMBBcMBBcMBBcMBBcMBBcMBBcMBBcMBBcM",
      "BBcMBBcMBBcMBBcMBBcMBBcMBBcMBBcMBBcMgCBbGBBbGBBbGBBbGBBbGBBbGBBbGBBbGBBbGBBbGBBbGBBbGBB",
      "bGBBbGBBbGBBbGBBbGBBbGBBbGBBbGBBbGBBbGegPBbGBBbGBBbGBBbGBBbGBBbGBBbGBBbGBBbGBBbGBBbGBBb",
      "GBBbGBBbGBBbGBBbGBBbGBBbGBBbGBBbGBBbGBBbGBBbGBBbGBBbGBBbGBBbGBBbGBBbGBBbGBBbGBBbGbgjXBb",
      "GBBbGBBbGBBbGBBbGBBbGBBbGBBbGBBbGBBbGBBbGBBbGBBbGBBbGBBbGBBbGBBbGBBbGBBbGBBbGBBbGBBbGBB",
      "bGBBbGBBbGBBbGBBbGBBbGBBbGBBbGBBbGBBbGcNBbBBBbBBBbBBBbBBBbBBBbBBBbBBBbBBBbBBBbBBBbBBBbB",
      "BBbBBBbBBBbBBBbBBBbBBBbBBBbBBBbBBBbBBBbBBBbBBBbBBBbBbuiABbIBBbIBBbIBBbIBBbIBBbIBBbIBBbI",
      "BBbIBBbIBBbIBBbIBBbIBBbIBBbIBBbIBBbIBBbIBBbIBBbIBBbIBBbIBBbIBBbIBBbIBBbIBBbIBBbIBBbIBBb",
      "IBBbIBBbIBBbIBBbI"])
  foldClassesFrom 0 row.length row

/-- For every character whose case class has other members: the character and its class. -/
def foldTable : List (Nat × List Nat) :=
  foldClasses.flatMap fun ms => ms.map fun m => (m, ms)

/-- The other case of an ASCII letter that is alone with it in its class. -/
def otherCase? (n : Nat) : Option Nat :=
  if n = 0x4B ∨ n = 0x53 ∨ n = 0x6B ∨ n = 0x73 then none
  else if 0x41 ≤ n ∧ n ≤ 0x5A then some (n + 0x20)
  else if 0x61 ≤ n ∧ n ≤ 0x7A then some (n - 0x20)
  else none

/-- The characters that are the letter `n` in some case, `n` among them. -/
def foldClass (n : Nat) : List Nat :=
  match otherCase? n with
  | some m => [n, m]
  | none =>
    if n < 0x80 ∧ ¬(n = 0x4B ∨ n = 0x53 ∨ n = 0x6B ∨ n = 0x73) then [n]
    else ((foldTable.find? fun e => e.1 = n).map Prod.snd).getD [n]

end BrowserShell.Unicode
