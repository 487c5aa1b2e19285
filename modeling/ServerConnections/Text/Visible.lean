import ServerConnections.Text.CodePoints

/-!
# Texts shown to a developer

A text is shown between quotes so that each of its characters can be seen: quotes
and backslashes are escaped, some control characters have a letter, and what
leaves no mark of its own is written as its number in hexadecimal. The latter are
the control, format, surrogate, private-use and unassigned code points, the
separators other than the space, and the characters that extend the one before
them (Grapheme_Extend).
-/

namespace ServerConnections.Text

/-- The code points from U+007F on that leave no mark of their own. -/
def hiddenTable : RangeTable := RangeTable.ofText
  "eXbHMAwWeHIBGDHABAUAiQGgKAbMBbYBDbTBABBBBBIbBDGQKKBAbUUQAdXHBFCBBDbGBBAbEbCdLKBNbRIHCYDBIBCB
   GPAZEBALEbGPbQcEcDABAEHEADGKBbDACAIBCBWAHABCECBACFCBCABMCADDYEBAGDCBWAHACACACDDXEABGKBDABLBA
   JADAWAHACAFCEHBACCBOCDMGBHCAIBCBWAHACAFCBBBFCBCOCADDSKBAGCDAECCABACCCCDCMEBACCDADCBUVFDAIADA
   XAQCBCESDACBCDKGKALADAXAKAFCCBBACWDACDKADNLADAbPBBACEDADACDDAKDbABCASCYAJABBHICFHGKBDLbWACKI
   HNbKCABAFAYABAKACIBBFABIKBEbFYBbBABABAOAbKRBEBBFbWIAGANbKbTDBFBBCBZBECQDNACBGAPAbOABEBBoNAEB
   HABAEBbPAEBbHAEBHABAEBPAcFAEBcPEbDCbAFdIBGByQAbCCdLGSMTCCISNNADOcABBGIACKJCKFKFLEKFdLGFBbIAB
   EcSJbFDEBDDCAGGBCbQBFKbSDbAFLCcFBCCcEABIBACHGMKFKFOdHbWJECIAbDIMBbGDCFcEABBDABMbWHCEPCcKEbRB
   LKBMBGEAGADBBEhKcLkSBGBbMBGBIABABABAbFBcBAPAOBGATBDAJQYHbVQCBbBANCbIcJfKDzQVLUcrSBoNCCEbTABE
   BBcEGCOXIHAHAHAHAHAHAHAHbGdQbHbAAdLLiGZQAbPFQAdIDdXEbRAdQAdIIbWAbriRCcDInKTbVDBJbGBdCBGHiNTR
   ADAEAZBFDKFcEHcQJMXNAbMHZKBLbEFbWACDCBCANALDHAZAbPFCBCKDAIABBKBbGAbZABCCBFBBABXRBIKGBGBGIHAH
   AcIDeNACAECKFqnSLXDbXmnBoCBeCbLHLFEBAYAFABACACAzAbFQPKVbJATAEDFAfFDgBBbFCGBGBGBDCHAHMCBMAbAA
   TACAPBObHeTEDDbTCdKANCBbUbTfAbDCbXPbBDbKIbEEbMJbEAbLDObPgCBKFbKDbKDbOHcAKMAPAHACALAPAHACCcAL
   lZIWJIXGAbQAJcQGBBAbSACCBBXAcUHJbVTACEbHCbBEbBbLcEDUBbVOEADAbDJJGJGcMbFbLFMIcCCbDBbBEbAGELHd
   BcVcCbZMbZGbQLKFbMHYHChZbFAbQCBBCPGHJbMbOHWKJVSDEbLbCTXIBAcCOHDbEACBBLbXDCBCAENZGKIbKEBISHbJ
   ADKcAIBAIDCAQAUKSAbCCCDGACcKHABAEAPALFbVADMKHCAIBCBWAHACAFCBABAEBCBCCBLHbBKABBBAbMABACOBACCB
   ADACbMcEHCCBAVABADbDbWACFBACABBBBEHKgJbVACFEBBBbBbJbZHCABBEKKFNSbRABACHCFKFUbBbBCBACDBIXhCbV
   IBBBdVdFLIBBBIACAYAFACFEADIKcRIBbQHEAEbABJbOFCDIIBFCCbUMBBJMcVGKdIBCBABdJbINKFJAbMNBAGJbDCbG
   YBGBBBcWHACAbMUBIKFGACAbLDCABABGKFbSDKjLTBEIPAbKHCCXdHBObYMbjNdXeHAFKhOdxJdVMbpGQGYfxREwLkdC
   bELDCKcoRvXGbFAKDdDAKFbEGBJbWGPJKAHAVETqPcGhPdNEZBZbRcXEcEKNcLENFIkxYbObGdSeLmwQEAHACAlFOBbC
   DBBNEHpGdkTeDENCJGKBBBBfvJjTCqUFXORdQeMcHjMJbNBcIEDVCGbEDcJUcOCBeRULULdJIZfEdHAcTACBBBCBEAMA
   BAHAcNAEBIAHAbCAEAFABCHAnCBlGBvQcCEbXIAOAHbrVbFFGkAcKfPbTJHBKDCmHbERbSDKEBrVbCDKiFbEBLDBhJbF
   ADACAHBFICiPHAEACAPAhPBJbVcQGBDKDCbeEcQcXcJhLEAbBACABBBAKAEABABFBDBABABADACABBBABABABABACABB
   EAHAEAEABAKAREDAFARbZCkJbSDdWLPBPAPAbLJgScDbDMbSDJGCNGfXblXCRCNCiKFMDBOMDcEHKFbOHbEBMDCNJbMn
   GHOBNCLCcFABDQBMDKGfRAdZbnOclfCbFgmOBioCBlbLOxYdqVuWcfXhhZEmoObzljX"

/-- Whether a character leaves no mark of its own. -/
def isHidden (c : Char) : Bool :=
  if c.toNat < 0x7F then c.toNat < 0x20 else hiddenTable.contains c.toNat

/-- A character as it is shown. -/
def visibleChar (c : Char) : List Char :=
  if c = '\x00' then ['\\', '0']
  else if c = '\t' then ['\\', 't']
  else if c = '\r' then ['\\', 'r']
  else if c = '\n' then ['\\', 'n']
  else if c = '"' ∨ c = '\\' then ['\\', c]
  else if isHidden c then
    ['\\', 'u', '\x7b'] ++ Nat.toDigits 16 c.toNat ++ ['\x7d']
  else [c]

/-- A text as it is shown. -/
def visible (s : String) : String :=
  String.ofList ('"' :: (s.toList.flatMap visibleChar ++ ['"']))

end ServerConnections.Text
