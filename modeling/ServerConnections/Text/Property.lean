import ServerConnections.Text.CodePoints

/-!
# Character properties

The properties of characters that decide which domain names are valid.

* `isMark` — the general category Mark: a part of a domain name may not start with
  a combining mark
* `joinsNext`, `joinsPrevious`, `isTransparent` — the property Joining_Type: in some
  scripts letters join the ones beside them, on the left, on the right, on both
  sides (dual), or not at all but without being in the way (transparent); this
  decides where a zero-width non-joiner makes a difference
* `Direction.ofChar` — the property Bidi_Class, as far as the rule for domain names
  tells its values apart
-/

namespace ServerConnections.Text

/-! ### Combining marks -/

/-- The code points of combining marks. -/
def markTable : RangeTable := RangeTable.ofText
  "bdOeHkPGkDbSBABBBBBAcUKbWUQAdXGCFCBBDbJAbEbAdNKcGIJAYDBIBCBEbRCcHIbQXBbGcCCBRBGKBbDCcEABGCBC
   CJAKBbAACCcEABEEBCCDAbEBDALCcEABHBCBCUBWFBCcEABGCBCCHCKBbEAcHEDCBDJAbOEcDABGBCBDHBLBbDCcEABG
   BCBDHBLBPAMDcDBBGBCBDJAKBbDCcSAEFBABHSBcJACGMHdUACILGcVBbBABABAEBbXTBBFKBbJJAdWTXDECBCCGDDNL
   BAKDbbBCbkKDbCCbDBbEBcMbFJAbTCBAeNBbIAeOLELiLEcFJBbCCAbWbTCLUEbVQbMIMCbEMcENbWTfWCBUEAGACChQ
   cLbbSbGeoCCfLAdSbFvIFeBBbsqEDBJbGBdCBkMADAEAXEEAdFBbYRbARNAbMHZMbSDbVNbKAcPNMAIBbTCbYABCCBFB
   BAbPEFBjCHBBbdzSAbcJPQPblLAiSAfTEcmGCBBFDbOCEAgJBwBDcNEmFBcZFcSKbXDeSCcBObPACBKDbTKHAcJCbKNQ
   BbSAMCbWNIDBBdOLGACAgBLVDcDBBGCBCCJAKBCGDEcPIBACABDBEBAOBdERXAdDTjBGCIbBBdEQeCMdXOjWOjLFBBCD
   BABBfLGCGDAbCJbOGBDIAJKbUPhQHhRHBHdEVBNeSFDABBBGBAcOEBBBEnJDJBBAbWGDEXAhxTAGOqyYRdsAEcHGboIA
   BcCHDdDALBbdaXBgyZbTCWuWEDFIHCGbEDfSCcyDcCEbXIAOAWEBOcaIGBQCGBBBEdWAgEGoLAcJDtODjUBjJACAHBFA
   sGGeFGbtciVjF"

/-- Whether a character is a combining mark. -/
def isMark (c : Char) : Bool := markTable.contains c.toNat

/-! ### Joining letters -/

/-- Letters that join on both sides. -/
def dualJoiningTable : RangeTable := RangeTable.ofText
  "ciIAFABABEEMBGBBbJBIPSbLBBJABABBbOCCASCFDBIBABABBbFKDOCDBACCCFcWbGdIECABJBAKABDCAbDACEBAQJFB
   CFBOfuCAYdKObHBAccjTbXblfYEODBEBCKDfPABADCBBBACAbCBnAbGBApZBBBeACBQMCbCDCLbUABBEACBBBBACAFAd
   egRcP"

/-- Letters that join on their left side only. -/
def leftJoiningTable : RangeTable := RangeTable.ofText
  "cluOAblgKAJAvGAbbMA"

/-- Letters that join on their right side only. -/
def rightJoiningTable : RangeTable := RangeTable.ofText
  "ciKDBABAFDVAbOCBCQRbMACIBABACBBAYBbGAEEEAJABABACAbDALCPBEABBDBhQAFBBAKABCOABBFSLAbBCBACBGAdt
   sTABABBDEKADACAKAfPABCDACABBBAXDoJApZAeIAbGAbFBcKCCBCAEBFA"

/-- Characters that letters join through. -/
def transparentTable : RangeTable := RangeTable.ofText
  "gRAwWeHkPGkDbSBABBBBBAcUKBAbUUQAdXGCFCBBDbHABAbEbAdNKcGIJAYDBIBCBEbRCcHIbQXBbFcDABAEHEADGKBb
   DAcGAEDIAUBbAACBcFAEBEBCCDAbEBDALBcFAEEBBEAUBWFBAcGACABDIAHBLBbEAcJAMAbYADAcDABCFCBDHBLBbDAc
   GACAGAFBUBbCBcFBEDIAUBbDAcUAHCBAdMACGMHdUACILGcVBbBABABAcDNBEBBFKBbJJAdYDBFBBCBZBECQDNACBGAP
   AbbBCbkKCbDBbEBbEBcMBBGIACKJAbTCBAeNBbIAeOCEBJAGCiLBCAcGABGBABACHGJCAbWbTCLUDbWABEBAFAbOIMBb
   GDCBBCcEABBDABCcGHCBfWCBMBGEAGADBhQcLuDACBbAEbXEFFdSbGeoCCfLAdSbFvIDeDBbsqEDBJbGBdCBkMADAEAZ
   BFAfVBbARNAbMHZKbUCbWACDCBbNAcPFCBCBMAIAbVAbZABCCBFBBAbQBIAjEACAEAbdzSAbcJPQPhZAjPCtTAiSAfTE
   cmGCBBFDbOCEAgJBwBDcNEmFBcZFcSKbXDeTAcCObPACBKCbXDCBHAcJCbKEBHcKAMBcAIKDCAdRCCABBGACAgBADHVB
   cFBDAbLGDEcSFNABABAOBdHHCCBAXAdGFBAEBBBjEDGBBBbBBdHHCABBeCABACFBAdXABACDBEjZIBBjWBBAEAfODCBE
   AbGJbOFCDIAJFCCbUMBBhQABCBAhTGBFBAdEVCGBBBBeSFDABBBGBAcUBDABAnJBLBcAEFABAXAhxDQGOqyYLDCdsAEc
   HGboIAcLDdDAbdbKBBDgyUbTCWuYCJPCGbEDfSCcyDcCEbXIAOAWEBOcaIGBQCGBBBEdWAgEGoLAcJDtODjUBjJACAHB
   FAsGGeFHbtbyZAbEdReYjF"

/-- Whether a character joins what follows it. -/
def joinsNext (c : Char) : Bool :=
  leftJoiningTable.contains c.toNat || dualJoiningTable.contains c.toNat

/-- Whether a character joins what precedes it. -/
def joinsPrevious (c : Char) : Bool :=
  rightJoiningTable.contains c.toNat || dualJoiningTable.contains c.toNat

/-- Whether letters join through a character. -/
def isTransparent (c : Char) : Bool := transparentTable.contains c.toNat

/-! ### Writing direction -/

/-- How a character takes part in the direction of a text: `neutral` stands for
separators, terminators, boundaries and other neutral characters, `other` for the
classes that no domain name may hold, and `right` for letters of all scripts that
run from right to left. -/
inductive Direction where
  | left
  | right
  | arabicNumber
  | europeanNumber
  | neutral
  | mark
  | other
deriving DecidableEq, Repr

namespace Direction

/-- Letters that run from right to left. -/
def rightTable : RangeTable := RangeTable.ofText
  "ccUAbTABACACABcDIACABANbVbICBdWPBHBKWBbDbBdMLcFJBECBXEAJADAFbQDbZCEJbPivDAdeyVABJBuLSeWbHMeL
   fMdkRlABiQDACEEbNDDBgICdDHsPEHKbUFjHbFbRCcYGcRLbWEeRdduUhZHeEHcdOCkJ"

/-- Arabic numbers. -/
def arabicNumberTable : RangeTable := RangeTable.ofText
  "chCFdMJBBeIAqSBdCAduoZJlIbE"

/-- European numbers. -/
def europeanNumberTable : RangeTable := RangeTable.ofText
  "bWJeQBFAcjEJjqSADFGJbnITdesYJblFbAcymMJecQbXjmEKedHJ"

/-- Neutral characters. -/
def neutralTable : RangeTable := RangeTable.ofText
  "AIFNFOKGbAFbAJBbJBGCABCCEXAbFArHBHNCNFIBQeMBIAFBBAeGApNACCeOBBBBABBdMAeLAKAkIDtKBHAjLAjXHeVG
   rGAjQDbqOJdYAzQBmGAUJGKDAlTADBfWbHmWBbVAbpTABCLCNCNCNBMCCXHbVBFEFKELERbVbWBBDBBKABCFFBABABAE
   ALBEEFDCPbPCEqFcRZBfRWKVbNdUrHBnAjWyDCfHiVFOGjWdPbIZBdKMiFbAPBDDYPAFBFCdNBDAdMAhObLJAbTBbXPb
   CCbYOMDgLDdVBbFAjtOcLbguIcCmOCdVAKBeYbHdYAgDDMBcGDbdABbefDAuMReXbGNCQJWbIBSBDfRABOKGbAFbAKeS
   GBGBPjXAcKcYDMDAcvUAuRGbxYTbhUBBByXMcbSAbmXbCbdiXCyCAbdbPDfvGjFKCDqTGWPQySHeGBVcNDAhEdIbiQAc
   FAcFAcFAcFAegPAbdNAdkABkKbREdVMOCOBOBbKVEbFAcGFcJAgWFfYblWDQDMDiJGLEAPLEcDIJGbNIbDCLEBOIbNnF
   INCMDKDcEBAEPCLEJHfQBdNKAbnNBdsyOBdsyOBdsyOBdsyOBdsyOBdsyOBdsyOBdsyOBdsyOBdsyOBdsyOBdsyOjXjG
   fiLdmxABdsyOBdsyOB"

/-- Marks that do not space. -/
def markTable : RangeTable := RangeTable.ofText
  "bdOeHkPGkDbSBABBBBBAcUKbWUQAdXGCFCBBDbJAbEbAdNKcGIJAYDBIBCBEbRCcHIbQXBbFcDABAEHEADGKBbDAcGAE
   DIAUBbAACBcFAEBEBCCDAbEBDALBcFAEEBBEAUBWFBAcGACABDIAHBLBbEAcJAMAbYADAcDABCFCBDHBLBbDAcGAPBUB
   bCBcFBEDIAUBbDAcUAHCBAdMACGMHdUACILGcVBbBABABAcDNBEBBFKBbJJAdYDBFBBCBZBECQDNACBGAPAbbBCbkKCb
   DBbEBbEBcMBBGIACKJAbTCBAeNBbIAeOCEBJAGCiLBCAcGABGBABACHGJCAbWbTCLUDbWABEBAFAbOIMBbGDCBBCcEAB
   BDABCcGHCBfWCBMBGEAGADBhQcLbbSbGeoCCfLAdSbFvIDeDBbsqEDBJbGBdCBkMADAEAZBFAfVBbARNAbMHZKbUCbWA
   CDCBbNAcPFCBCBMAIAbVAbZABCCBFBBAbQBIAjEACAEAbdzSAbcJPQPblLAiSAfTEcmGCBBFDbOCEAgJBwBDcNEmFBcZ
   FcSKbXDeTAcCObPACBKCbXDCBHAcJCbKEBHcKAMBcAIKDCAdRCCABBGACAgBADHVBcFBDAbLGDEcSFNABABAOBdHHCCB
   AXAdGFBAEBBBjEDGBBBbBBdHHCABBeCABACFBAdXCCDBEjZIBBjWBBAEAfODCBEAbGFCBbOFCDIAJFCCbUMBBhQABCBA
   hTGBFdGVCGBBBBeSFDABBBGBAcUBDABAnJBLBcAEFABAXAhxTAGOqyYLDCdsAEcHGboIAcLDdDAbdbKBgyZbTCWuYCRH
   CGbEDfSCcyDcCEbXIAOAWEBOcaIGBQCGBBBEdWAgEGoLAcJDtODjUBjJACAHBFAsGGeFGbtciVjF"

/-- Separators of paragraphs and segments, blanks, and explicit directions. -/
def otherTable : RangeTable := RangeTable.ofText
  "JEOEdWAiiKAdpNKbDGbWAGDfxMA"

/-- The direction of a character. -/
def ofChar (c : Char) : Direction :=
  let n := c.toNat
  if rightTable.contains n then .right
  else if arabicNumberTable.contains n then .arabicNumber
  else if europeanNumberTable.contains n then .europeanNumber
  else if neutralTable.contains n then .neutral
  else if markTable.contains n then .mark
  else if otherTable.contains n then .other
  else .left

end Direction

end ServerConnections.Text
