import ServerConnections.Text.CodePoints

/-!
# The characters of domain names

A character of a domain name is valid as it is, mapped to others, ignored, or
not allowed at all.
-/

namespace ServerConnections.Domain

open Text

/-- What becomes of a character in a domain name. -/
inductive Treatment where
  | valid
  | mapped (replacement : List Char)
  | ignored
  | refused
deriving DecidableEq, Repr

/-- The mapped characters: the gap before each, the number of characters it is
mapped to, and these. -/
def mappingText : String :=
  "cNBdTABdUABdVABdWABdXABdYABdZABeAABeBABeCABeDABeEABeFABeGABeHABeIABeJABeKABeLABeMABeNABeOABe
   PABeQABeRABeScRBbGHCbGbdWBBdTECbGbdSCBbYABbZACbGbdPABbkUCCbGbfBABbXABeHBDbXmfScAADbXmfSbYADb
   ZmfScABBiQABiRABiSABiTABiUABiVABiWABiXABiYABiZABjAABjBABjCABjDABjEABjFABjGABjHABjIABjJABjKAB
   jLABjMBBjOABjPABjQABjRABjSABjTABjUbHBjXBBjZBBkBBBkDBBkFBBkHBBkJBBkLBBkNBBkPBBkRBBkTBBkVBBkXB
   BkZBBlBBBlDBBlFBBlHBBlJBBlLBBlNBBlPBBlRBCeBbdVBCeBeCACeBeCABlXBBlZCBmCBBmEBBmGBCeEhBACeEhBAB
   mKBBmMBBmOBBmQBCbaYeGABmTBBmVBBmXBBmZBBnBBBnDBBnFBBnHBBnJBBnLBBnNBBnPBBnRBBnTBBnVBBnXBBnZBBo
   BBBoDBBoFBBoHBBoJBBoLBBjVABoOBBoQBBoSBBeLBBwXABoXBBoZBBwYABpCBBxAABxBABpGCBsJABxDABxFABpMBBx
   KABxNBBxTABxSABpTDBxZAByCBByFABqBBBqDBBqFBByQABqIBByTCBqNBByYABqQBBzAABzBABqUBBqWBBzIABqZDBr
   DHCdWoSACdWoSACdWoSACeEeCACeEeCACeEeCACeGeCACeGeCACeGeCABrUBBrWBBrYBBsABBsCBBsEBBsGBBsICBsLB
   BsNBBsPBBsRBBsTBBsVBBsXBBsZBBtBCCdWeSACdWeSACdWeSABtHBBpPABrFABtLBBtNBBtPBBtRBBtTBBtVBBtXBBt
   ZBBuBBBuDBBuFBBuHBBuJBBuLBBuNBBuPBBuRBBuTBBuVBBuXBBpYBBvBBBvDBBvFBBvHBBvJBBvLBBvNBBvPBBvRHBq
   vDABwABBpUABqvECBwGBBoUAByZABzCABwLBBwNBBwPBBwRBBwTdTBeAABxQABeCABeKAByJAByLAByRABePABeRbFCb
   GbdUACbGbdVACbGbdYACbGbfCACbGbdRACbGbdZCBxNABeEABeLABeQABzLdNBbdOABbdPBBbeHACbdWbdPABbkRbQBb
   hXBBbhZBBbaVBBbiDDCbGbkRDBcHABbmXECbGbdPADbGbdWbdPABbkEABhBABbkFABbkGABbkHBBblKBBblLABblMBBb
   kJABbkKABbkLABbkMABbkNABbkOABbkPABbkQABbkRABbkSABbkTABbkUABbkVABbkWABbkXABbkYABbkZBBblBABblC
   ABblDABblEABblFABblGABblHABblIABblJbJBblVABbkKABbkQABblDABblLABblJABblEABbkYBBblXBBblZBBbmBB
   BbmDBBbmFBBbmHBBbmJBBbmLBBbmNBBbmPBBbmRBBbmTBBbkSABbkZABblBBBbkQABbkNBBbnCBBblBABbnFCBbiHABb
   iIABbiJABbqMABbqNABbqOABbqPABbqQABbqRABbqSABbqTABbqUABbqVABbqWABbqXABbqYABbqZABbrAABbrBABbpG
   ABbpHABbpIABbpJABbpKABbpLABbpMABbpNABbpOABbpPABbpQABbpRABbpSABbpTABbpUABbpVABbpWABbpXABbpYAB
   bpZABbqAABbqBABbqCABbqDABbqEABbqFABbqGABbqHABbqIABbqJABbqKABbqLbWBbrDBBbrFBBbrHBBbrJBBbrLBBb
   rNBBbrPBBbrRBBbrTBBbrVBBbrXBBbrZBBbsBBBbsDBBbsFBBbsHBBbsJJBbsTBBbsVBBbsXBBbsZBBbtBBBbtDBBbtF
   BBbtHBBbtJBBbtLBBbtNBBbtPBBbtRBBbtTBBbtVBBbtXBBbtZBBbuBBBbuDBBbuFBBbuHBBbuJBBbuLBBbuNBBbuPBB
   buRBBbuTBBbvJABbuWBBbuYBBbvABBbvCBBbvEBBbvGBBbvICBbvLBBbvNBBbvPBBbvRBBbvTBBbvVBBbvXBBbvZBBbw
   BBBbwDBBbwFBBbwHBBbwJBBbwLBBbwNBBbwPBBbwRBBbwTBBbwVBBbwXBBbwZBBbxBBBbxDBBbxFBBbxHBBbxJBBbxLB
   BbxNBBbxPBBbxRBBbxTBBbxVBBbxXBBbxZBBbyBBBbyDBBbyFBBbyHBBbyJBBbyLBBbyNBBbyPBBbyRBBbyTBBbyVBBb
   yXBBbyZBBbzBCBcaZABcbAABcbBABcbCABcbDABcbEABcbFABcbGABcbHABcbIABcbJABcbKABcbLABcbMABcbNABcbO
   ABcbPABcbQABcbRABcbSABcbTABcbUABcbVABcbWABcbXABcbYABcbZABccAABccBABccCABccDABccEABccFABccGAB
   ccHABccIABccJABccKbWCcbDccGjDCciPclOACcjWclOACcoTclOACcjYclObcHCdlLdmYACdlMdmYACdlNdmYACdlSd
   mYACdlXdmYACdlYdmYACdmHdmYACdmLdmYeUCdqVdrWACdqWdrWBCdrJdrWdFCdwKdwUCCdwQdwUbICdvIdwUACdvJdw
   UACdvOdwUCCdwDdwUjTCefPegQACefQegQbbXCfkVfjUeXCfpTfoSbOCfoLfnTACfoLfoBbUBfsDcCCfuGfyTJCfuQfy
   TECfuVfyTECfvAfyTECfvFfyTMCfuEfyRJCfwBfwCBCfwBfwEACfyOfwQADfyOfwBfwQACfyPfwQADfyPfwBfwQHCfwB
   fwQRCfxIfyTJCfxSfyTECfxXfyTECfyCfyTECfyHfyTMCfxGfyRiWBrbCABrbDABrbEABrbFABrbGABrbHABrbIABrbJ
   ABrbKABrbLABrbMABrbNABrbOABrbPABrbQABrbRABrbSABrbTABrbUABrbVABrbWABrbXABrbYABrbZABrcAABrcBAB
   rcCABrcDABrcEABrcFABrcGABrcHABrcIABrcJABrcKABrcLABrcMABrcNBBrcPFBrcVbUBgkAbdJBhoIABhoJABhoKA
   BhoLABhoMABhoNdfUBbpIABbpKABbpUABbpXABbpYABbpYABbqGABbrFABckzJABkvAGBgjOABgjPABgjQABgjRABgjS
   ABgjTABgjUABgjVABgjWABgjXABgjYABgjZABgkAABgkBABgkCABgkDABgkEABgkFABgkGABgkHABgkIABgkJABgkKAB
   gkLABgkMABgkNABgkOABgkPABgkQABgkRABgkSABgkTABgkUABgkVABgkWABgkXABgkYABgkZABglAABglBABglCABgl
   DABglECBglHABglIABglJeEBdTABiWABdUBBdWABdXABsJABdZABeAABeBABeCABeDABeEABeFABeGBBeHABvBABeIAB
   eKABeMABeNABePABdTABwUABwVABkzQABdUABdWABdXABxDABxFABxGABdZBBeDABeFABmTABeHABwYABlaKABlaLABe
   IABeMABeNABlaRABxZABeOABlaZABbkKABbkLABbkMABblEABblFABeBABeKABeNABeOABbkKABbkLABbkZABblEABbl
   FNBbpTbIBwWABdVABwZABjGABxGABdYABxJABxLABxPABxSABxTABxUABleHABzTABxXABleRABzVAByBAByAAByCABy
   DAByEAByFAByIABySAByTABqLAByZABzAABlaQABzBABzCABeSABzGABzHABzIABbkQcMBljLBBljNBBljPBBljRBBlj
   TBBljVBBljXBBljZBBlkBBBlkDBBlkFBBlkHBBlkJBBlkLBBlkNBBlkPBBlkRBBlkTBBlkVBBlkXBBlkZBBllBBBllDB
   BllFBBllHBBllJBBllLBBllNBBllPBBllRBBllTBBllVBBllXBBllZBBlmBBBlmDBBlmFBBlmHBBlmJBBlmLBBlmNBBl
   mPBBlmRBBlmTBBlmVBBlmXBBlmZBBlnBBBlnDBBlnFBBlnHBBlnJBBlnLBBlnNBBlnPBBlnRBBlnTBBlnVBBlnXBBlnZ
   BBloBBBloDBBloFBBloHBBloJBBloLBBloNBBloPBBloRBBloTBBloVBBloXBBloZBBlpBBBlpDFCdTbbAABlnDCBiPB
   BlpPBBlpRBBlpTBBlpVBBlpXBBlpZBBlqBBBlqDBBlqFBBlqHBBlqJBBlqLBBlqNBBlqPBBlqRBBlqTBBlqVBBlqXBBl
   qZBBlrBBBlrDBBlrFBBlrHBBlrJBBlrLBBlrNBBlrPBBlrRBBlrTBBlrVBBlrXBBlrZBBlsBBBlsDBBlsFBBlsHBBlsJ
   BBlsLBBlsNBBlsPBBlsRBBlsTBBlsVBBlsXBBlsZBBltBBBltDBBltFJBltGABltHABltIABltJABltKABltLABltMAB
   ltNIBltWABltXABltYABltZABluAABluBKBluMABluNABluOABluPABluQABluRABluSABluTIBlvCABlvDABlvEABlv
   FABlvGABlvHABlvIABlvJIBlvSABlvTABlvUABlvVABlvWABlvXLBlwJBBlwLBBlwNBBlwPIBlwYABlwZABlxAABlxBA
   BlxCABlxDABlxEABlxFBBbkEBBbkFBBbkGBBbkHBBblKBBblLBBblMCCltGbkRACltHbkRACltIbkRACltJbkRACltKb
   kRACltLbkRACltMbkRACltNbkRACltGbkRACltHbkRACltIbkRACltJbkRACltKbkRACltLbkRACltMbkRACltNbkRAC
   luMbkRACluNbkRACluObkRACluPbkRACluQbkRACluRbkRACluSbkRACluTbkRACluMbkRACluNbkRACluObkRACluPb
   kRACluQbkRACluRbkRACluSbkRACluTbkRAClwYbkRAClwZbkRAClxAbkRAClxBbkRAClxCbkRAClxDbkRAClxEbkRAC
   lxFbkRAClwYbkRAClwZbkRAClxAbkRAClxBbkRAClxCbkRAClxDbkRAClxEbkRAClxFbkRCClxObkRACbkJbkRACbkEb
   kRCCmaGbkRABmaAABmaBABlxOABbkEACbkJbkRACbGbeHABbkRACbGbeHACbGbgCADbGbdWbgCAClxSbkRACbkPbkRAC
   bkGbkRCCmaWbkRABlxQABbkFABlxSABbkGACbkPbkRADbGbeHbdOADbGbeHbdPADbGbeHbgCDBbjCEBmbGABmbHABlxU
   ABbkHBDbGbeIbdOADbGbeIbdPADbGbeIbgCDBbkIEBmbWABmbXABlxYABblLABmcBADbGbdWbdOADbGbdWbdPABdSCCl
   yAbkRACblHbkRACblMbkRCCmcSbkRABlxWABblKABlyAABblMACblHbkRACbGbdPACbGbeIBBbGABbGABbGABbGABbGA
   BbGABbGABbGABbGABbGABbGGBmdSFCbGbfNXBbGDCmfAmfAADmfAmfAmfABCmfDmfDADmfDmfDmfDECbHbHBCbGbdTIC
   cLcLACcLbHACbHcLNEmfAmfAmfAmfAHBbGQBbWABeBCBcAABcBABcCABcDABcEABcFABbRABmxMABcJABbOABbPABeGA
   BbWABbXABbYABbZABcAABcBABcCABcDABcEABcFABbRABmxMABcJABbOABbPBBdTABdXABeHABeQABxDABeAABeDABeE
   ABeFABeGABeIABeLABeMLCeKeLdJDdTbVdVADdTbVeLABdVACgUdVBDdVbVeHADdVbVeNABxFBCgUdYABdZABeAABeAA
   BeAABeAABlJABeBABeBABeEABeEBBeGACeGeHCBeIABeJABeKABeKABeKCCeLeFADeMdXeEACeMeFBBeSBBblHBBeSBB
   eDABiVABdUABdVBBdXABdXABdYABmpYABeFABeHABcfGABcfHABcfIABcfJABeBBDdYdTeQABbkYABbkLABbkLABbkYA
   BmxLEBdWABdWABdXABeBABeCGDbXmfScDADbXmfScFAEbXmfSbXbWADbXmfSbZADbYmfSbZADbXmfScBADbYmfScBADb
   ZmfScBADcAmfScBADbXmfScCADcBmfScCADbXmfScEADbZmfScEADcBmfScEADcDmfScEACbXmfSABeBACeBeBADeBeB
   eBACeBeOABeOACeOeBADeOeBeBAEeOeBeBeBACeBeQABeQACeQeBADeQeBeBABeEABdVABdWABeFABeBACeBeBADeBeB
   eBACeBeOABeOACeOeBADeOeBeBAEeOeBeBeBACeBeQABeQACeQeBADeQeBeBABeEABdVABdWABeFDBmsAFDbWmfSbZgG
   CmyLmyLADmyLmyLmyLBCmyOmyOADmyOmyOmyOjOBseYABseZlXBbXABbYABbZABcAABcBABcCABcDABcEABcFACbXbWA
   CbXbXACbXbYACbXbZACbXcAACbXcBACbXcCACbXcDACbXcEACbXcFACbYbWADbObXbPADbObYbPADbObZbPADbOcAbPA
   DbOcBbPADbOcCbPADbOcDbPADbOcEbPADbOcFbPAEbObXbWbPAEbObXbXbPAEbObXbYbPAEbObXbZbPAEbObXcAbPAEb
   ObXcBbPAEbObXcCbPAEbObXcDbPAEbObXcEbPAEbObXcFbPAEbObYbWbPUDbOdTbPADbOdUbPADbOdVbPADbOdWbPADb
   OdXbPADbOdYbPADbOdZbPADbOeAbPADbOeBbPADbOeCbPADbOeDbPADbOeEbPADbOeFbPADbOeGbPADbOeHbPADbOeIb
   PADbOeJbPADbOeKbPADbOeLbPADbOeMbPADbOeNbPADbOeObPADbOePbPADbOeQbPADbOeRbPADbOeSbPABdTABdUABd
   VABdWABdXABdYABdZABeAABeBABeCABeDABeEABeFABeGABeHABeIABeJABeKABeLABeMABeNABeOABePABeQABeRABe
   SABdTABdUABdVABdWABdXABdYABdZABeAABeBABeCABeDABeEABeFABeGABeHABeIABeJABeKABeLABeMABeNABeOABe
   PABeQABeRABeSABbWbyNEmyLmyLmyLmyLdZDcGcGcJACcJcJADcJcJcJdXCqgBbfSlFBqtCABqtDABqtEABqtFABqtGA
   BqtHABqtIABqtJABqtKABqtLABqtMABqtNABqtOABqtPABqtQABqtRABqtSABqtTABqtUABqtVABqtWABqtXABqtYABq
   tZABquAABquBABquCABquDABquEABquFABquGABquHABquIABquJABquKABquLABquMABquNABquOABquPABquQABquR
   ABquSABquTABquUABquVABquWABquXbWBquZBBxVABleJAByNCBqvGBBqvIBBqvKBBwVAByBABwUABwWBBqvRCBqvUGB
   eCABeOABwDABwEABqwFBBqwHBBqwJBBqwLBBqwNBBqwPBBqwRBBqwTBBqwVBBqwXBBqwZBBqxBBBqxDBBqxFBBqxHBBq
   xJBBqxLBBqxNBBqxPBBqxRBBqxTBBqxVBBqxXBBqxZBBqyBBBqyDBBqyFBBqyHBBqyJBBqyLBBqyNBBqyPBBqyRBBqyT
   BBqyVBBqyXBBqyZBBqzBBBqzDBBqzFBBqzHBBqzJBBqzLBBqzNBBqzPBBqzRBBqzTBBqzVBBqzXBBqzZIBraIBBraKEB
   raPeUBreVlRBbovLdFBcilRMBbdoAABbdpOABbdqCABbdqLABbdrLABbdtDABbdtKABbduEABbdvEABbetZABbevLABb
   evRABbewOABbexIABbeyDABbfaEABbfaZABbfbKABbfhJABbfkZABbfmBABbfmGABbfnKABbfnTABbfoUABbfpHABbfq
   GABbfsGABbfsYABbftZABbgxBABbgzVABbhrNABbhsKABbhsSABbhtDABbhtVABbhwTABbipCABbiqYABbivOABbiwLA
   BbixEABbiyAABbjaCABbjaFABbjoDABbjoNABbjoZABbjpMABbjtYABbjuGABbjuLABbjyYABbjzIABbjzVABbkaDABb
   kcMABbkdDABbkdVABbkgXABbldGABblfAABblfVABbmiHABbmiMABbmlRABbmmHABbmmUABbmnPABbmpCABbmpHABbmz
   OABbnaMABbnbSABbooUABborIABbosFABbouLABbovJABbovSABbovZABboxZABboyEABbozKABbqoXABbrgCABbrgOA
   BbrgTABbrgXABbrhFABbrhXABbrhZABbrlCABbrtKABbrtPABbsgQABbshAABbsiYABbsjFABbsjOABbsjWABbsnJABb
   snQABbswKABbswRABbsyOABbszFABbtbAABbtkDABbtkKABbtlBABbtxQABbucMABbucSABbujSABbunBABbuoVABbvd
   JABbviMABbweOABbwfPABbwhUABbwjTABbwmJABbwmUABbwnAABbwoHABbwrFABbwrPABbxeXABbxfEABbxfNABbxfWA
   BbxgMABbxhBABbxhFABbxkGABbxkKABbxkQABbywJABbyxNABbzpOABbzqAABbzqXABcabUABcacHABcafAABcagUABc
   bcPABcbdEABcbdTABcbfCABcbgNABcboEABcboQABcbrFABccaTABccbYABccjZABcckUABcckZABcctLABcdaNABcdf
   IABcdfOABcdfTABcepRABceqAABcewAABcfbYABcfcBABcfdWABcfhXABcfiKABcfiOABcfiVABcfmPABcfnXABcfoDA
   BcfoRABcfvCABcfxBABcfxFABcgeGABcgeJABcgfCABcgoUABcgqQABcgqXABcgtPABcgtZABcguCABcguMABcgvQABc
   hkVABciaFABciaPABcicBABcicXABcidFABcidPABcidTABcifHABcifLABcigCABcigHABcigUABcihVABciiKABcii
   SABcikZABcilOABcilSbQBbGBBbUbZBsfIBBbfnTABbfnWABbfnXdSCbGskNACbGskOCCsjWsjYdRCslNsmIbXBglKAB
   glLABgrYABglMABgsAABgsBABglNABglOABglPABgsEABgsFABgsGABgsHABgsIABgsJABgmKABglQABglRABglSABgm
   RABglTABglUABglVABglWABglXABglYABglZABgmAABgmBABgmCABgpDABgpEABgpFABgpGABgpHABgpIABgpJABgpKA
   BgpLABgpMABgpNABgpOABgpPABgpQABgpRABgpSABgpTABgpUABgpVABgpWABgpXBBgmEABgmFABgtBABgtCABgtGABg
   tIABgtNABgtRABgtTABgmMABgtXABgtZABgmNABgmOABgmQABgmSABgmTABgmXABgmZABgnBABgnCABgnDABgnEABgnF
   ABgnIABgnMABgnWABgoDABgoIABguRABguSABgoTABgoUABgoVABgqMABgqNABgqQABgqZABgrAABgrCABgrMABgrPDB
   bdoAABbdtKABbdoJABbgxFABbdoKABbdpTABbdoLABbsjYABbdrLABbdoZABbdoBABbhtXABbhaMABbdvEdSDbOglKbP
   ADbOglMbPADbOglNbPADbOglPbPADbOglQbPADbOglRbPADbOglTbPADbOglVbPADbOglWbPADbOglYbPADbOglZbPAD
   bOgmAbPADbOgmBbPADbOgmCbPADbOcndObPADbOcowUbPADbOcptKbPADbOcrmQbPADbOcsjGbPADbOctfWbPADbOcuz
   CbPADbOcwsIbPADbOcxoYbPADbOcziEbPADbOdaeUbPADbOdbbKbPADbOdbyAbPADbOdcuQbPADbOcycYbPAEbOcxaYc
   xtKbPAEbOcxaYddiQbPBDbObdoAbPADbObdtKbPADbObdoJbPADbObgxFbPADbObdtSbPADbObevTbPADbObdoDbPADb
   ObevRbPADbObdrPbPADbObfnTbPADbObnaMbPADbObqoXbPADbObozKbPADbObnbSbPADbOcdfTbPADbObgzVbPADbOb
   mpHbPADbObnlQbPADbObnaNbPADbObtxUbPADbObfvPbPADbObrjDbPADbOcbgRbPADbObtyZbPADbObfiIbPADbObdw
   TbPADbObfzWbPADbObipYbPADbObtaPbPADbObdxXbPADbOcbiDbPADbObfoMbPADbObtzPbPADbObdyNbPADbObxfEb
   PADbObxfNbPABbghZABbjuIABbmlRABbuuPIDeIeMdXACbYbXACbYbYACbYbZACbYcAACbYcBACbYcCACbYcDACbYcEA
   CbYcFACbZbWACbZbXACbZbYACbZbZACbZcAACbZcBABglKABglMABglNABglPABglQABglRABglTABglVABglWABglYA
   BglZABgmAABgmBABgmCABcndOABcowUABcptKABcrmQABcsjGABctfWABcuzCABcwsIABcxoYABcziEABdaeUABdbbKA
   BdbyAABdcuQACcziUcnmEACcycYcxmUABcxgIBBbdoAABbdtKABbdoJABbgxFABbdtSABbevTABbdoDABbevRABbdrPA
   BbfnTABbnaMABbqoXABbozKABbnbSABcdfTABbgzVABbmpHABbnlQABbnaNABbtxUABbfvPABbrjDABcbgRABbtyZABb
   fiIABbudSABbskDABbhwTABccrXABbetEABbfpOABbpgIABcfoVABbdyNABbexLABborJABbdoKABbdpTABbdoLABbjo
   OABbfuPABbfnNABbirVABbipYABbtaPABbdxXABcbiDABbfoMABbhtKACbZcCACbZcDACbZcEACbZcFACcAbWACcAbXA
   CcAbYACcAbZACcAcAACcAcBACcAcCACcAcDACcAcEACcAcFACcBbWACbXbnaMACbYbnaMACbZbnaMACcAbnaMACcBbna
   MACcCbnaMACcDbnaMACcEbnaMACcFbnaMADbXbWbnaMADbXbXbnaMADbXbYbnaMACeAdZADdXeKdZACdXeOADeEeMdWA
   BskWABskYABslAABslCABslEABslFABslHABslJABslLABslNABslPABslRABslTABslVABslXABslZABsmBABsmEABs
   mGABsmIABsmKABsmLABsmMABsmNABsmOABsmPABsmSABsmVABsmYABsnBABsnEABsnFABsnGABsnHABsnIABsnKABsnM
   ABsnOABsnPABsnQABsnRABsnSABsnTABsnVABsnWABsnXABsnYACbdwUbgaMAEskWsmRsoIsmIAEskWsnRsmVskVAEsk
   WsnZsnAskWADskWsoIsnRAEskYsmLsnZslKADskYsnZsmBADslAslDsnZAFslCslTslJsoIsmJAEslCsoIslFsoIADsl
   EsnZslTADslEsoIsnGADslFskYsnQAEslFsnPsmDsmIAEslFsnTsnQsoIADslGsnTsnZADslGsnZsnEACslIslGADslI
   smLsoIAEslHsnLsnQsoIAEslIsnRsmAsoIACslHsnTAFslHsnTslKsnPsnGAGslHsnTsnHsoIsmIsnRAFslHsnTsnVsm
   DsmIADslKsnPsnGAFslKsnPsnGsmIsnZAFslJsnRslWskYsnTAEslJsnTsoIsmNADslLsoIslTADslNsnRsmKADslNso
   IsnDAEslPskYslJsnRAFslPsnZsmBsoIsnGAEslRsnQsnZslKADslVsnZsmBADslVsnZsmIADsmAsoIslTACsmHslRAC
   smJsnRACsmIsnZACsmKsmOADsmOsmDsmIADsmPskYsmEAFsmRsoIslVsnZsmIADsmRsoIsmEAEsmQsoIsnSsnRAFsmUs
   kWslTsmIsnRADsmUslJsnRACsmUslNACsmTsnRAFsmVskVsnPsmDsmJAEsmVskXsoIsmIAFsmWsmDslRslBsnRADsmVs
   nPsnZAFsmYslJslZsoIsnRACsnAslXADsnAsmLsmSADsmYsnRsmEADsnAsnZslTADsnAsoIslSADsmZsoIslZAEsnDsk
   YsnZsmIADsnCsnRsmIACsnBsnZADsnDsnZsmJADsnBsoIsnRADsnBsoIsnZAEsnEskYslJsnTADsnEskYsnRADsnEsmD
   smPADsnEsnRslJAFsnEsnZslRsnNsnZAEsnFslJsnTsnZACsnFsnQAFsnFsnQsmQsoIsnRACsnHslGAEsnHslGsmIsnZ
   AEsnHsoIsmIsnRADsnKsoIsmJADsnKsoIsnRADsnMskWsnZAEsnQsmDsmIsnRACsnQsnPADsnRsmUsoIAEsnRsoIsmWs
   nRACsnSsnGAFsnSsnZsmIslMsnZADsnVsmDsmIACbWbqrXACbXbqrXACbYbqrXACbZbqrXACcAbqrXACcBbqrXACcCbq
   rXACcDbqrXACcEbqrXACcFbqrXADbXbWbqrXADbXbXbqrXADbXbYbqrXADbXbZbqrXADbXcAbqrXADbXcBbqrXADbXcC
   bqrXADbXcDbqrXADbXcEbqrXADbXcFbqrXADbYbWbqrXADbYbXbqrXADbYbYbqrXADbYbZbqrXADbYcAbqrXADeAeIdT
   ACdWdTACdTeNADdUdTeKACeHeOACeIdVACdWeFADdWeFbYADdWeFbZACeBeNACbjtZbldOACbmsBbgaMACbhtVborJAC
   bmqWbpePAEbnlQbjzZbdyWbtxUACeIdTACeGdTACbkUdTACeFdTACeDdTACeDdUACeFdUACdZdUADdVdTeEAEeDdVdTe
   EACeIdYACeGdYACbkUdYACbkUdZACeFdZACeDdZACeAeSADeDeAeSADeFeAeSADdZeAeSADeMeAeSACbkUeEACeFeEAC
   dWeEACeDeEACdYeFACeGeFACbkUeFACeFeFACdVeFACeDeFADeFeFbYADdVeFbYACeFbYADeDeFbYADeFeFbZADdVeFb
   ZACeFbZADeDeFbZADeFmxPeLAEeFmxPeLbYACeIdTADeDeIdTADeFeIdTADdZeIdTADeKdTdWAFeKdTdWmxPeLAGeKdT
   dWmxPeLbYACeIeLACeGeLACbkUeLACeFeLACeIeOACeGeOACbkUeOACeFeOACeDeOACeFeOACeIePACeGePACbkUePAC
   eFePACeDePACeFePACeDblHACeFblHBCdUeJACdVdVACdVdWAEdVmxPeDdZBCdWdUACdZeRACeAdTACeAeIACeBeGACe
   DeDACeDeFACeDeMACeEeFACeEeGADeEeHdZACeEeQACeFdUADeFeBeEADeFeHeEACeIeABDeIeIeFACeIeKACeLeKACe
   LeOACePdUADeOmxPeFADdTmxPeFACbXbmpHACbYbmpHACbZbmpHACcAbmpHACcBbmpHACcCbmpHACcDbmpHACcEbmpHA
   CcFbmpHADbXbWbmpHADbXbXbmpHADbXbYbmpHADbXbZbmpHADbXcAbmpHADbXcBbmpHADbXcCbmpHADbXcDbmpHADbXc
   EbmpHADbXcFbmpHADbYbWbmpHADbYbXbmpHADbYbYbmpHADbYbZbmpHADbYcAbmpHADbYcBbmpHADbYcCbmpHADbYcDb
   mpHADbYcEbmpHADbYcFbmpHADbZbWbmpHADbZbXbmpHADdZdTeEbrgYBckyZBBckzBBBckzDBBckzFBBckzHBBckzJBB
   ckzLBBckzNBBckzPBBckzRBBckzTBBckzVBBckzXBBckzZBBclaBBBclaDBBclaFBBclaHBBclaJBBclaLBBclaNBBcl
   aPBBclaRTBclbLBBclbNBBclbPBBclbRBBclbTBBclbVBBclbXBBclbZBBclcBBBclcDBBclcFBBclcHBBclcJBBclcL
   BBbqGABbqIfCBclhRBBclhTBBclhVBBclhXBBclhZBBcliBBBcliDDBcliHBBcliJBBcliLBBcliNBBcliPBBcliRBBc
   liTBBcliVBBcliXBBcliZBBcljBBBcljDBBcljFBBcljHBBcljJBBcljLBBcljNBBcljPBBcljRBBcljTBBcljVBBclj
   XBBcljZBBclkBBBclkDBBclkFBBclkHBBclkJBBclkLBBclkNBBclkPBBclkPIBcllABBcllCBBleFABcllFBBcllHBB
   cllJBBcllLBBcllNEBcllSBBxPCBcllXBBcllZDBclmDBBclmFBBclmHBBclmJBBclmLBBclmNBBclmPBBclmRBBclmT
   BBclmVBBxQABxGABxLABxWABxUBBzUAByXABzTABcmwXABclnHBBclnJBBclnLBBclnNBBclnPBBclnRBBclnTBBclnV
   BBclmAABySABlfAABcloABBcloCBBxOABcloFBBcloHBBcloJBBcloLBBcloNBBcloPBBcloRBBcloTBBpVUBeLABdVA
   BdYABeJABclpUCBlJABnBbhIBclhVABcmvVABxVABcmwWJBzDGBhlGABhlHABhlIABhlJABhlKABhlLABhlMABhlNABh
   lOABhlPABhlQABhlRABhlSABhlTABhlUABhlVABhlWABhlXABhlYABhlZABhmAABhmBABhmCABhmDABhmEABhmFABhmG
   ABhmHABhmIABhmJABhmKABhmLABhmMABhmNABhmOABhmPABhmQABhmRABhmSABhmTABhmUABhmVABhmWABhmXABhmYAB
   hmZABhnAABhnBABhnCABhnDABhnEABhnFABhnGABhnHABhnIABhnJABhnKABhnLABhnMABhnNABhnOABhnPABhnQABhn
   RABhnSABhnTABhnUABhnVABhnWABhnXABhnYABhnZABhoAABhoBABhoCABhoDABhoEABhoFABhoGABhoHbdgQBcbdGAB
   bmzSABccbYABcbiEABbpzDABbdpYABbfuBABcilOABcilOABbhvLABcdfTABbgkDABbhvCABblcOABbsvXABbwhPABby
   vVABbzkKABbzwQABcctJABbodUABbpiHABbqtDABbrwWABbycBABcdbUABcghTABbdtAABbfpTABbonSABbrfNABbyvD
   ABchwWABbjiUABbqjZABbyrLABcaaUABblkRABbxeMABbzoHABbjxIABbnbBABbplIABbroEABccvUABbedAABbeyPAB
   bfjYABbmeEABbolVABbrfCABbtaTABbwmJABbytQABbywYABcbtNABcfgSABcgwLABchvMABbtqYABbuaHABbvoYABbx
   xPABcdrOABciaPABcapAABbhrBABbjzOABbvcQABbwrEABbriGABbttIABcbhYABcfeLABbhqUABbizQABboeLABbppQ
   ABbqbNABbvkPABbvuTABcexVABbfjMABbwrRABbfaAABbezKABbugIABbvqCABbxzDABcezLABcavOABblkXABbodUAB
   caqOABbdqFABbiuXABbkjYABbrtNABbsmIABbfmDABbtvFABbefFABbkfXABbdoNABbpfGABbmlCABbvkCABbfsTABbh
   mCABbtbTABbycNABcanIABbouSABcckUABbpcQABblmSABbxoVABblsYABbslXABbduSABbevPABbezHABbnoZABbvhV
   ABbxkHABcaoWABcdfRABbfkVABbfxQABbhwTABbjyQABbmoBABbqkSABbtxAABcerTABcgmKABcibNABcidQABbfhJAB
   bmxYABbosDABcchUABbjuAABbkyQABblcYABbmcOABbqcHABbqxLABbsdLABbudEABbvsEABbwqPABccfMABbyiWABcc
   pFABcduGABbfcHABbfhRABbgcJABbqsMABbzuOABcanIABbjxHABbkiVABblrNABbouGABbvbIABbrsVABbdwUABbgyJ
   ABbiuXABbjmWABbkkIABbrvEABbscFABbwiKABbwpAABcdjOABcfeKABcfhOABcfpOABbedFABbucCABcdeQABcfcAAB
   bkrXABbdtEABbeqCABbivEABbiyHABbmmJABbodUABbrcOABbsuKABbyjKABccsQABcikZABbmvOABcewSABbfgRABbn
   eXABbnjNABbpjTABbpxCABbryNABbslLABbtpRABbvjKABcfsGABbevTABbleSABcezOABbejJABbjgRABbpqGABccfQ
   ABbkeTABbkvSABbnkXABbrtNABcfaCABbfcZABbfvRABbizTABbmrBABbndEABbnqMABbpgFABbryKABbsqSABbwhDAB
   bzvBABbzvTABcdfOABcfdQABbfnRABbpyGABbfwFABbrcQABbseAABbytEABcfbFABchfJABcibVABbnfZABbppBABbx
   fCABbunBABbuqIABbveOABbrlWABbqqRABcauAABbdvKABbxrYABbfdQABbfbRABbjvYABbllBABbvhEABbirDABbpiK
   ABbmxGABccgHABbzqAABcexXABcacHABbjxRABbeuAABbgmICBbhlYBBbmuUCBbfaCABbrpYABbszQABbtxSABbtzAAB
   btzHABbuaXABcfiCABbvgGABbwjTBBbyuCBBcaqICBccqAABccxPDBcfxVABcfyIABcgaAABchsUABccwKABcfbZABbe
   eOABbeqPABbeuNABbfjDABbfkEABbfoJABbgkZABbgpAABbgsUABbhkYABbhoYABbizSABbjaCABbkoYABbkxCABbkyO
   ABblcKABbmjNABbmpEABbmvXABbnpDABbplVABbpsCABbqcGABbqyWABbrgDABbrzMABbtrDABbtxUABbtyFABbtyEAB
   btyMABbtySABbtyZABbuaVABbuaWABbuhSABbukFABbuwMABbvsEABbvsZABbvvDABbwgWABbwmNABbxfHABbxkRABbx
   kRABbydBABbzxOABcacSABcaqRABcasVABcbiPABcbkQABcclAABccqAABcfdRABcfoPABcfqXABbknTABilgGABbxgY
   CBbdpMABbeyNABbevOABbecUABbeuFABbewMABbfjBABbflAABbgkZABbgiFABbgkVABbgnQABbhlYABbhpJABbhuYAB
   bhvOABbifYABbinOABbjxQABbjxXABbkdLABbkgBABbkrOABbkwCABbktKABbkyOABbkwUABblcKABbleYABbluIABbl
   xSABblzUABbmjUABbmuUABbnbBABbnbFABbndMABbosFABbouSABbpjTABbpzNABbpyXABbqcGABbqlYABbqyWABbtiD
   ABbrgNABbrlFABbrpYABbscNABbsiGABbskHABbssZABbstBABbszQABbtaHABbtbGABbteOABbteEABbttKABbumBAB
   buwMABbvdRABbvmHABbvsEABbweWABbwmNABbxtAABbxzBABbzhXABbzzLABcacCABcacSABcaoDABcaqIABcaoPABca
   qRABcaqOABcapXABcasVABcavYABcbkQABccgEABccsGABcddPABcdmCABcezSABcfdRABcfiCABcfnFABcfoPABcfpB
   ABcfqXABcgsWABcilOABibdYABibdSABifnPABwoZAByhCAByiJABirbLABivbCABjhxZABciiDABcilAbMCdYdYACdY
   eBACdYeEADdYdYeBADdYdYeEACeLeMACeLeMMCcbScbUACcbScbDACcbScbJACccCcbUACcbScbLFCcfPceEBCcgOceH
   ABcfYABcfGABcfJABcfKABcfRABcfSABcfTABcgEABcgGABbRACcgFceRACcgFceSADcgFceMceRADcgFceMceSACcfG
   ceHACcfGceIACcfGceMACcfHceMACcfIceMACcfJceMACcfKceMACcfLceMACcfMceMBCcfOceMACcfPceMACcfQceMA
   CcfRceMACcfSceMBCcfUceMBCcfWceMACcfXceMBCcfZceMACcgAceMBCcgCceMACcgDceMACcgEceMACcgFceMACcgG
   ceMACcfLceJACcfHcePACcfRcePACcgAcePACcfGcfSABclLABclLABclVABclVABclVABclVABclYABclYABclYABcl
   YABcmAABcmAABcmAABcmAABclUABclUABclUABclUABclZABclZABclZABclZABclTABclTABclTABclTABcnKABcnKA
   BcnKABcnKABcnMABcnMABcnMABcnMABcmEABcmEABcmEABcmEABcmDABcmDABcmDABcmDABcmGABcmGABcmGABcmGABc
   mHABcmHABcmHABcmHABcmNABcmNABcmMABcmMABcmOABcmOABcmIABcmIABcmYABcmYABcmRABcmRABcnPABcnPABcnP
   ABcnPABcnVABcnVABcnVABcnVABcnZABcnZABcnZABcnZABcnXABcnXABcnXABcnXABcoGABcoGABcoHABcoHABcoHAB
   coHABcoMABcoMABcoNABcoNABcoNABcoNABcoKABcoKABcoKABcoKABcpEABcpEABcpFABcpFbHBcnTABcnTABcnTABc
   nTABcoTABcoTABcoSABcoSABcoUABcoUACcoTclOABcoXABcoXABcoRABcoRABcoVABcoVABcpCABcpCABcpCABcpCAB
   cjXABcjXACciOciPACciOciPACciOcpHACciOcpHACciOcjWACciOcjWACciOcoTACciOcoTACciOcoSACciOcoSACci
   OcoUACciOcoUACciOcpCACciOcpCACciOcpCACciOcjXACciOcjXACciOcjXABcoYABcoYABcoYABcoYACciOciUACci
   OciVACciOcjTACciOcjXACciOcjYACciQciUACciQciVACciQciWACciQcjTACciQcjXACciQcjYACciSciUACciSciV
   ACciSciWACciScjTACciScjXACciScjYACciTciUACciTcjTACciTcjXACciTcjYACciUciVACciUcjTACciVciUACci
   VcjTACciWciUACciWciVACciWcjTACcjBciUACcjBciVACcjBciWACcjBcjTACcjDciVACcjDcjTACcjEciUACcjEciV
   ACcjEciWACcjEcjTACcjFciVACcjFcjTACcjGcjTACcjHciUACcjHcjTACcjIciUACcjIcjTACcjPciUACcjPciVACcj
   PciWACcjPcjTACcjPcjXACcjPcjYACcjQciVACcjQcjTACcjQcjXACcjQcjYACcjRciPACcjRciUACcjRciVACcjRciW
   ACcjRcjSACcjRcjTACcjRcjXACcjRcjYACcjSciUACcjSciVACcjSciWACcjScjTACcjScjXACcjScjYACcjTciUACcj
   TciVACcjTciWACcjTcjTACcjTcjXACcjTcjYACcjUciUACcjUciVACcjUciWACcjUcjTACcjUcjXACcjUcjYACcjVciU
   ACcjVcjTACcjVcjXACcjVcjYACcjYciUACcjYciVACcjYciWACcjYcjTACcjYcjXACcjYcjYACciYclKACciZclKACcj
   XclKADbGckAckFADbGckBckFADbGckCckFADbGckDckFADbGckEckFADbGckFclKACciOciZACciOcjAACciOcjTACci
   OcjUACciOcjXACciOcjYACciQciZACciQcjAACciQcjTACciQcjUACciQcjXACciQcjYACciSciZACciScjAACciScjT
   ACciScjUACciScjXACciScjYACciTciZACciTcjAACciTcjTACciTcjUACciTcjXACciTcjYACcjPcjXACcjPcjYACcj
   QcjXACcjQcjYACcjRciPACcjRcjSACcjRcjTACcjRcjXACcjRcjYACcjScjTACcjScjXACcjScjYACcjTciPACcjTcjT
   ACcjUciZACcjUcjAACcjUcjTACcjUcjUACcjUcjXACcjUcjYACcjXclKACcjYciZACcjYcjAACcjYcjTACcjYcjUACcj
   YcjXACcjYcjYACciOciUACciOciVACciOciWACciOcjTACciOcjVACciQciUACciQciVACciQciWACciQcjTACciQcjV
   ACciSciUACciSciVACciSciWACciScjTACciScjVACciTcjTACciUciVACciUcjTACciVciUACciVcjTACciWciUACci
   WcjTACcjBciUACcjBciVACcjBciWACcjBcjTACcjDciVACcjDciWACcjDcjTACcjEciUACcjEciVACcjEciWACcjEcjT
   ACcjFciVACcjGcjTACcjHciUACcjHcjTACcjIciUACcjIcjTACcjPciUACcjPciVACcjPciWACcjPcjTACcjQciVACcj
   QcjTACcjRciUACcjRciVACcjRciWACcjRcjSACcjRcjTACcjSciUACcjSciVACcjSciWACcjScjTACcjScjVACcjTciU
   ACcjTciVACcjTciWACcjTcjTACcjUciUACcjUciVACcjUciWACcjUcjTACcjUcjVACcjVciUACcjVcjTACcjVclKACcj
   YciUACcjYciVACcjYciWACcjYcjTACcjYcjVACciOcjTACciOcjVACciQcjTACciQcjVACciScjTACciScjVACciTcjT
   ACciTcjVACcjBcjTACcjBcjVACcjCcjTACcjCcjVACcjRcjSACcjRcjTACcjScjTACcjUcjTACcjUcjVACcjYcjTACcj
   YcjVADcjOckCckFADcjOckDckFADcjOckEckFACcjFcjXACcjFcjYACcjHcjXACcjHcjYACcjIcjXACcjIcjYACcjBcj
   XACcjBcjYACcjCcjXACcjCcjYACciVcjXACciVcjYACciUcjXACciUcjYACciWcjXACciWcjYACcjDcjXACcjDcjYACc
   jEcjXACcjEcjYACcjCciUACcjCciVACcjCciWACcjCcjTACcjCciZACcjBciZACcjDciZACcjEciZACcjFcjXACcjFcj
   YACcjHcjXACcjHcjYACcjIcjXACcjIcjYACcjBcjXACcjBcjYACcjCcjXACcjCcjYACciVcjXACciVcjYACciUcjXACc
   iUcjYACciWcjXACciWcjYACcjDcjXACcjDcjYACcjEcjXACcjEcjYACcjCciUACcjCciVACcjCciWACcjCcjTACcjCci
   ZACcjBciZACcjDciZACcjEciZACcjCciUACcjCciVACcjCciWACcjCcjTACcjBcjVACcjCcjVACcjFcjTACcjBciUACc
   jBciVACcjBciWACcjCciUACcjCciVACcjCciWACcjFcjTACcjGcjTACciPcjZACciPcjZSDciSciUcjTADciSciVciUA
   DciSciVciUADciSciVcjTADciSciWcjTADciScjTciUADciScjTciVADciScjTciWADciUcjTciVADciUcjTciVADciV
   cjTcjYADciVcjTcjXADcjBciVciUADcjBciUciVADcjBciUcjXADcjBcjTciVADcjBcjTciVADcjBcjTciUADcjBcjTc
   jTADcjBcjTcjTADcjDciVciVADcjDciVciVADcjDcjTcjTADcjCciVcjTADcjCciVcjTADcjCciUcjYADcjCcjTciWAD
   cjCcjTciWADcjCcjTcjTADcjCcjTcjTADcjEciVcjXADcjEciWcjTADcjEciWcjTADcjFcjTciVADcjFcjTciVADcjFc
   jTcjTADcjFcjTcjYADcjHciUcjTADcjHcjTcjTADcjHcjTcjTADcjHcjTcjXADcjIcjTcjTADcjIcjTcjYADcjIcjTcj
   XADcjPciWcjTADcjPciWcjTADcjQcjTciVADcjQcjTcjTADcjSciVcjTADcjSciVcjYADcjSciVcjXADcjSciUciUADc
   jSciUciUADcjSciWcjTADcjSciWcjTADcjScjTciVADcjScjTciVADcjTciVciUADcjTciVcjTADcjTciVcjYADcjTci
   UciVADcjTciUcjTADcjTciWciUADcjTciWcjTCDcjTciUciWADcjVcjTciUADcjVcjTcjTADcjUciVcjTADcjUciVcjX
   ADcjUciUcjTADcjUciUcjTADcjUciUcjXADcjUcjTcjYADcjUcjTcjXADcjYcjTcjTADcjYcjTcjTADciQciWcjYADci
   SciUcjYADciSciUcjXADciSciWcjYADciSciWcjXADciScjTcjYADciScjTcjXADciUcjTcjYADciUciVcjXADciUcjT
   cjXADcjBciWcjXADcjDciVcjYADcjCciVcjYADcjEciVcjYADcjSciUcjYADcjScjTcjYADcjYciVcjYADcjYciUcjYA
   DcjYcjTcjYADcjTcjTcjYADcjQcjTcjYADcjUciVcjYADcjQcjTciVADcjSciVcjTADcjHcjTcjYADcjRcjTcjYADcjU
   ciUciVADcjTciWcjYADcjSciUcjTADcjRcjTcjTADcjSciUcjTADcjUciUciVADciUciVcjYADciVciUcjYADcjTciUc
   jYADcjPcjTcjYADciQciVcjYADcjRcjTcjTADcjHciUcjTADcjDcjTcjTADcjBciWcjYADcjUciUcjYbODcjDcjScpEA
   DcjQcjScpEAEciPcjScjScjVAEciPcjRciQciZAEcjTciVcjTciXAEcjDcjScjHcjTAEciZcjBcjWcjSAEcjHcjScjYc
   jVAEcjWcjBcjScjTADcjDcjScjXAScjDcjScjXbGciPcjScjScjVbGcjHcjScjYcjVbGcjWcjBcjScjTAIciUcjSbGci
   UcjSciPcjScjVAEciZcoYciPcjSTBbSABseRBBcGABcHABbHABcLABsfMABsfNYBmdWABmdVABdRABdRABbOABbPABeT
   ABeVABsfKABsfLABsfGABsfHABsfAABsfBABseYABseZABsfCABsfDABsfEABsfFCBdNABdPACbGbdTACbGbdTACbGbd
   TACbGbdTABdRABdRABdRABbSABseRCBcHABcGABcLABbHABmdWABbOABbPABeTABeVABsfKABsfLABbJABbMABbQABbR
   ABbTABcIABcKABcJBBdOABbKABbLABcMECbGcjZACcjOcjZACbGckABCbGckBBCbGckCACcjOckCACbGckDACcjOckDA
   CbGckEACcjOckEACbGckFACcjOckFACbGckGACcjOckGABciJABciKABciKABciLABciLABciMABciMABciNABciNABc
   iOABciOABciOABciOABciPABciPABciQABciQABciQABciQABciRABciRABciSABciSABciSABciSABciTABciTABciT
   ABciTABciUABciUABciUABciUABciVABciVABciVABciVABciWABciWABciWABciWABciXABciXABciYABciYABciZAB
   ciZABcjAABcjAABcjBABcjBABcjBABcjBABcjCABcjCABcjCABcjCABcjDABcjDABcjDABcjDABcjEABcjEABcjEABcj
   EABcjFABcjFABcjFABcjFABcjGABcjGABcjGABcjGABcjHABcjHABcjHABcjHABcjIABcjIABcjIABcjIABcjPABcjPA
   BcjPABcjPABcjQABcjQABcjQABcjQABcjRABcjRABcjRABcjRABcjSABcjSABcjSABcjSABcjTABcjTABcjTABcjTABc
   jUABcjUABcjUABcjUABcjVABcjVABcjVABcjVABcjWABcjWABcjXABcjXABcjYABcjYABcjYABcjYACcjSciKACcjSci
   KACcjSciLACcjSciLACcjSciNACcjSciNACcjSciPACcjSciPEBbHABbIABbJABbKABbLABbMABbNABbOABbPABbQABb
   RABbSABbTABbUABbVABbWABbXABbYABbZABcAABcBABcCABcDABcEABcFABcGABcHABcIABcJABcKABcLABcMABdTABd
   UABdVABdWABdXABdYABdZABeAABeBABeCABeDABeEABeFABeGABeHABeIABeJABeKABeLABeMABeNABeOABePABeQABe
   RABeSABdNABdOABdPABdQABdRABdSABdTABdUABdVABdWABdXABdYABdZABeAABeBABeCABeDABeEABeFABeGABeHABe
   IABeJABeKABeLABeMABeNABeOABePABeQABeRABeSABeTABeUABeVABeWABpsVABpsWABbUABsfCABsfDABseRABsoHA
   BsnYABskVABskXABskZABslBABslDABsnJABsnLABsnNABsmDABsoIABskWABskYABslAABslCABslEABslFABslHABs
   lJABslLABslNABslPABslRABslTABslVABslXABslZABsmBABsmEABsmGABsmIABsmKABsmLABsmMABsmNABsmOABsmP
   ABsmSABsmVABsmYABsnBABsnEABsnFABsnGABsnHABsnIABsnKABsnMABsnOABsnPABsnQABsnRABsnSABsnTABsnVAB
   snZABskNABskOBBglKABglLABgrYABglMABgsAABgsBABglNABglOABglPABgsEABgsFABgsGABgsHABgsIABgsJABgm
   KABglQABglRABglSABgmRABglTABglUABglVABglWABglXABglYABglZABgmAABgmBABgmCDBgpDABgpEABgpFABgpGA
   BgpHABgpICBgpJABgpKABgpLABgpMABgpNABgpOCBgpPABgpQABgpRABgpSABgpTABgpUCBgpVABgpWABgpXDBgGABgH
   ABgQACbGbdSABgKABgJABmjPBBoaKABmsMABmsNABmsOABmsPABogMABoiDboBBdunOABdunPABdunQABdunRABdunSA
   BdunTABdunUABdunVABdunWABdunXABdunYABdunZABduoAABduoBABduoCABduoDABduoEABduoFABduoGABduoHABd
   uoIABduoJABduoKABduoLABduoMABduoNABduoOABduoPABduoQABduoRABduoSABduoTABduoUABduoVABduoWABduo
   XABduoYABduoZABdupAABdupBfGBduuIABduuJABduuKABduuLABduuMABduuNABduuOABduuPABduuQABduuRABduuS
   ABduuTABduuUABduuVABduuWABduuXABduuYABduuZABduvAABduvBABduvCABduvDABduvEABduvFABduvGABduvHAB
   duvIABduvJABduvKABduvLABduvMABduvNABduvOABduvPABduvQABduvRgABdvbRABdvbSABdvbTABdvbUABdvbVABd
   vbWABdvbXABdvbYABdvbZABdvcAABdvcBBBdvcDABdvcEABdvcFABdvcGABdvcHABdvcIABdvcJABdvcKABdvcLABdvc
   MABdvcNABdvcOABdvcPABdvcQABdvcRBBdvcTABdvcUABdvcVABdvcWABdvcXABdvcYABdvcZBBdvdBABdvdCsXBbbSA
   BbbTABiWABzPABwXBBzZABcmxQABbaBABbaAABxAABxBABlfDABxCABxIABbaFABxOABxMABxKABzRABlJABzSABxRAB
   yUABbaGABbaHABxWABgzkMABcllUABxYABgzkNABzEABgzkOABjOAByGAByHABeJAByKABgzkQAByNAByOAByQABbaEA
   BbaCABcmxRABbaDAByYABqvPBBzFABzXABzYABzOABrGABrHABrIABgzkSABgzlMbuZBdxuEABdxuFABdxuGABdxuHAB
   dxuIABdxuJABdxuKABdxuLABdxuMABdxuNABdxuOABdxuPABdxuQABdxuRABdxuSABdxuTABdxuUABdxuVABdxuWABdx
   uXABdxuYABdxuZABdxvAABdxvBABdxvCABdxvDABdxvEABdxvFABdxvGABdxvHABdxvIABdxvJABdxvKABdxvLABdxvM
   ABdxvNABdxvOABdxvPABdxvQABdxvRABdxvSABdxvTABdxvUABdxvVABdxvWABdxvXABdxvYABdxvZABdxwAABdxwBAB
   dxwCgBBdyaYABdyaZABdybAABdybBABdybCABdybDABdybEABdybFABdybGABdybHABdybIABdybJABdybKABdybLABd
   ybMABdybNABdybOABdybPABdybQABdybRABdybSABdybTegOBeciIABeciJABeciKABeciLABeciMABeciNABeciOABe
   ciPABeciQABeciRABeciSABeciTABeciUABeciVABeciWABeciXABeciYABeciZABecjAABecjBABecjCABecjDABecj
   EABecjFABecjGABecjHABecjIABecjJABecjKABecjLABecjMABecjNbgjWBfitKABfitLABfitMABfitNABfitOABfi
   tPABfitQABfitRABfitSABfitTABfitUABfitVABfitWABfitXABfitYABfitZABfiuAABfiuBABfiuCABfiuDABfiuE
   ABfiuFABfiuGABfiuHABfiuIABfiuJABfiuKABfiuLABfiuMABfiuNABfiuOABfiuPcMBfiwXABfiwYABfiwZABfixAA
   BfixBABfixCABfixDABfixEABfixFABfixGABfixHABfixIABfixJABfixKABfixLABfixMABfixNABfixOABfixPABf
   ixQABfixRABfixSABfixTABfixUABfixVbjqRBdTABdUABdVABdWABdXABdYABdZABeAABeBABeCABeDABeEABeFABeG
   ABeHABeIABeJABeKABeLABeMABeNABeOABePABeQABeRABeSABbWABbXABbYABbZABcAABcBABcCABcDABcEABcFbrGC
   gufVgugJACgufWgugJADgufWgugJgugSADgufWgugJgugTADgufWgugJgugUADgufWgugJgugVADgufWgugJgugWdICg
   ujPgugJACgujQgugJADgujPgugJgugSADgujQgugJgugSADgujPgugJgugTADgujQgugJgugTwDBdTABdUABdVABdWAB
   dXABdYABdZABeAABeBABeCABeDABeEABeFABeGABeHABeIABeJABeKABeLABeMABeNABeOABePABeQABeRABeSABdTAB
   dUABdVABdWABdXABdYABdZABeAABeBABeCABeDABeEABeFABeGABeHABeIABeJABeKABeLABeMABeNABeOABePABeQAB
   eRABeSABdTABdUABdVABdWABdXABdYABdZABeAABeBABeCABeDABeEABeFABeGABeHABeIABeJABeKABeLABeMABeNAB
   eOABePABeQABeRABeSABdTABdUABdVABdWABdXABdYABdZBBeBABeCABeDABeEABeFABeGABeHABeIABeJABeKABeLAB
   eMABeNABeOABePABeQABeRABeSABdTABdUABdVABdWABdXABdYABdZABeAABeBABeCABeDABeEABeFABeGABeHABeIAB
   eJABeKABeLABeMABeNABeOABePABeQABeRABeSABdTABdUABdVABdWABdXABdYABdZABeAABeBABeCABeDABeEABeFAB
   eGABeHABeIABeJABeKABeLABeMABeNABeOABePABeQABeRABeSABdTBBdVABdWCBdZCBeCABeDCBeGABeHABeIABeJBB
   eLABeMABeNABeOABePABeQABeRABeSABdTABdUABdVABdWBBdYBBeAABeBABeCABeDABeEABeFABeGBBeIABeJABeKAB
   eLABeMABeNABeOABePABeQABeRABeSABdTABdUABdVABdWABdXABdYABdZABeAABeBABeCABeDABeEABeFABeGABeHAB
   eIABeJABeKABeLABeMABeNABeOABePABeQABeRABeSABdTABdUABdVABdWABdXABdYABdZABeAABeBABeCABeDABeEAB
   eFABeGABeHABeIABeJABeKABeLABeMABeNABeOABePABeQABeRABeSABdTABdUBBdWABdXABdYABdZCBeCABeDABeEAB
   eFABeGABeHABeIABeJBBeLABeMABeNABeOABePABeQABeRBBdTABdUABdVABdWABdXABdYABdZABeAABeBABeCABeDAB
   eEABeFABeGABeHABeIABeJABeKABeLABeMABeNABeOABePABeQABeRABeSABdTABdUBBdWABdXABdYABdZBBeBABeCAB
   eDABeEABeFBBeHDBeLABeMABeNABeOABePABeQABeRBBdTABdUABdVABdWABdXABdYABdZABeAABeBABeCABeDABeEAB
   eFABeGABeHABeIABeJABeKABeLABeMABeNABeOABePABeQABeRABeSABdTABdUABdVABdWABdXABdYABdZABeAABeBAB
   eCABeDABeEABeFABeGABeHABeIABeJABeKABeLABeMABeNABeOABePABeQABeRABeSABdTABdUABdVABdWABdXABdYAB
   dZABeAABeBABeCABeDABeEABeFABeGABeHABeIABeJABeKABeLABeMABeNABeOABePABeQABeRABeSABdTABdUABdVAB
   dWABdXABdYABdZABeAABeBABeCABeDABeEABeFABeGABeHABeIABeJABeKABeLABeMABeNABeOABePABeQABeRABeSAB
   dTABdUABdVABdWABdXABdYABdZABeAABeBABeCABeDABeEABeFABeGABeHABeIABeJABeKABeLABeMABeNABeOABePAB
   eQABeRABeSABdTABdUABdVABdWABdXABdYABdZABeAABeBABeCABeDABeEABeFABeGABeHABeIABeJABeKABeLABeMAB
   eNABeOABePABeQABeRABeSABdTABdUABdVABdWABdXABdYABdZABeAABeBABeCABeDABeEABeFABeGABeHABeIABeJAB
   eKABeLABeMABeNABeOABePABeQABeRABeSABdTABdUABdVABdWABdXABdYABdZABeAABeBABeCABeDABeEABeFABeGAB
   eHABeIABeJABeKABeLABeMABeNABeOABePABeQABeRABeSABdTABdUABdVABdWABdXABdYABdZABeAABeBABeCABeDAB
   eEABeFABeGABeHABeIABeJABeKABeLABeMABeNABeOABePABeQABeRABeSABdTABdUABdVABdWABdXABdYABdZABeAAB
   eBABeCABeDABeEABeFABeGABeHABeIABeJABeKABeLABeMABeNABeOABePABeQABeRABeSABdTABdUABdVABdWABdXAB
   dYABdZABeAABeBABeCABeDABeEABeFABeGABeHABeIABeJABeKABeLABeMABeNABeOABePABeQABeRABeSABdTABdUAB
   dVABdWABdXABdYABdZABeAABeBABeCABeDABeEABeFABeGABeHABeIABeJABeKABeLABeMABeNABeOABePABeQABeRAB
   eSABdTABdUABdVABdWABdXABdYABdZABeAABeBABeCABeDABeEABeFABeGABeHABeIABeJABeKABeLABeMABeNABeOAB
   ePABeQABeRABeSABlTABvVCBbkJABbkKABbkLABbkMABbkNABbkOABbkPABbkQABbkRABbkSABbkTABbkUABbkVABbkW
   ABbkXABbkYABbkZABbkQABblBABblCABblDABblEABblFABblGABblHABmxBABbkJABbkKABbkLABbkMABbkNABbkOAB
   bkPABbkQABbkRABbkSABbkTABbkUABbkVABbkWABbkXABbkYABbkZABblBABblBABblCABblDABblEABblFABblGABbl
   HABmwWABbkNABbkQABbkSABblEABbkZABbkYABbkJABbkKABbkLABbkMABbkNABbkOABbkPABbkQABbkRABbkSABbkTA
   BbkUABbkVABbkWABbkXABbkYABbkZABbkQABblBABblCABblDABblEABblFABblGABblHABmxBABbkJABbkKABbkLABb
   kMABbkNABbkOABbkPABbkQABbkRABbkSABbkTABbkUABbkVABbkWABbkXABbkYABbkZABblBABblBABblCABblDABblE
   ABblFABblGABblHABmwWABbkNABbkQABbkSABblEABbkZABbkYABbkJABbkKABbkLABbkMABbkNABbkOABbkPABbkQAB
   bkRABbkSABbkTABbkUABbkVABbkWABbkXABbkYABbkZABbkQABblBABblCABblDABblEABblFABblGABblHABmxBABbk
   JABbkKABbkLABbkMABbkNABbkOABbkPABbkQABbkRABbkSABbkTABbkUABbkVABbkWABbkXABbkYABbkZABblBABblBA
   BblCABblDABblEABblFABblGABblHABmwWABbkNABbkQABbkSABblEABbkZABbkYABbkJABbkKABbkLABbkMABbkNABb
   kOABbkPABbkQABbkRABbkSABbkTABbkUABbkVABbkWABbkXABbkYABbkZABbkQABblBABblCABblDABblEABblFABblG
   ABblHABmxBABbkJABbkKABbkLABbkMABbkNABbkOABbkPABbkQABbkRABbkSABbkTABbkUABbkVABbkWABbkXABbkYAB
   bkZABblBABblBABblCABblDABblEABblFABblGABblHABmwWABbkNABbkQABbkSABblEABbkZABbkYABbkJABbkKABbk
   LABbkMABbkNABbkOABbkPABbkQABbkRABbkSABbkTABbkUABbkVABbkWABbkXABbkYABbkZABbkQABblBABblCABblDA
   BblEABblFABblGABblHABmxBABbkJABbkKABbkLABbkMABbkNABbkOABbkPABbkQABbkRABbkSABbkTABbkUABbkVABb
   kWABbkXABbkYABbkZABblBABblBABblCABblDABblEABblFABblGABblHABmwWABbkNABbkQABbkSABblEABbkZABbkY
   ABbmBABbmBCBbWABbXABbYABbZABcAABcBABcCABcDABcEABcFABbWABbXABbYABbZABcAABcBABcCABcDABcEABcFAB
   bWABbXABbYABbZABcAABcBABcCABcDABcEABcFABbWABbXABbYABbZABcAABcBABcCABcDABcEABcFABbWABbXABbYAB
   bZABcAABcBABcCABcDABcEABcFdcQBbpGABbpHABbpIABbpJABbpKABbpLABbpMABbpNABbpOABbpQABbpRABbpSABbp
   UABbpVABbpWABbpXABbpYABbpZABbqAABbqBABbqCABbqDABbqEABbqHABbqJABbqKABclbTABbvTABbqSABbqUABbwJ
   ABbuDABbvJABbpGABbpHABbpIABbpJABbpKABbpLABbpMABbpNABbpOABbpQABbpRABbpUABbpVABbpXABbpZABbqAAB
   bqBABbqCABbqDABbqEABbqGABbqHABbsZABbqSABbqRABbrBABbtZABckzPABbuFdgKBhdgCABhdgDABhdgEABhdgFAB
   hdgGABhdgHABhdgIABhdgJABhdgKABhdgLABhdgMABhdgNABhdgOABhdgPABhdgQABhdgRABhdgSABhdgTABhdgUABhd
   gVABhdgWABhdgXABhdgYABhdgZABhdhAABhdhBABhdhCABhdhDABhdhEABhdhFABhdhGABhdhHABhdhIABhdhJbvYBci
   PABciQABciUABciXBBcjWABcjAABciVABcjFABcjYABcjRABcjSABcjTABcjUABcjBABcjHABcjPABcjDABcjQABciZA
   BcjCABciSABciTABciWABciYABcjEABcjGABcjIABclIABcoGABcnHABclJBBciQABciUBBcjVCBciVBBcjYABcjRABc
   jSABcjTABcjUABcjBABcjHABcjPABcjDABcjQBBcjCABciSABciTABciWBBcjEBBcjIGBciUEBciVBBcjYBBcjSBBcjU
   ABcjBABcjHBBcjDABcjQBBcjCCBciWBBcjEBBcjIBBcoGBBclJBBciQABciUBBcjVCBciVABcjFABcjYABcjRBBcjTAB
   cjUABcjBABcjHABcjPABcjDABcjQBBcjCABciSABciTABciWBBcjEABcjGABcjIABclIBBcnHBBciPABciQABciUABci
   XABcjVABcjWABcjAABciVABcjFABcjYBBcjSABcjTABcjUABcjBABcjHABcjPABcjDABcjQABciZABcjCABciSABciTA
   BciWABciYABcjEABcjGABcjIFBciQABciUABciXBBcjWABcjAABciVABcjFABcjYBBcjSABcjTABcjUABcjBABcjHABc
   jPABcjDABcjQABciZABcjCABciSABciTABciWABciYABcjEABcjGABcjIwJCbWbSACbXbSACbYbSACbZbSACcAbSACcB
   bSACcCbSACcDbSACcEbSACcFbSFDbOdTbPADbOdUbPADbOdVbPADbOdWbPADbOdXbPADbOdYbPADbOdZbPADbOeAbPAD
   bOeBbPADbOeCbPADbOeDbPADbOeEbPADbOeFbPADbOeGbPADbOeHbPADbOeIbPADbOeJbPADbOeKbPADbOeLbPADbOeM
   bPADbOeNbPADbOeObPADbOePbPADbOeQbPADbOeRbPADbOeSbPADsfKeLsfLABdVABeKACdVdWACePeSBBdTABdUABdV
   ABdWABdXABdYABdZABeAABeBABeCABeDABeEABeFABeGABeHABeIABeJABeKABeLABeMABeNABeOABePABeQABeRABeS
   ACeAeOACeFeOACeLdWACeLeLADeIeIeOACePdVbACeFdVACeFdWACeFeKbJCdWeCeHCsjJshNACslNslNABslPNBblfV
   ABbipJABbftCABsmHABbdtKABbhtIABcafRABbhtXABbduIABbmrOABbqvXABbmmJABbfeJABbkeUABbewZABbmnGABb
   fcNABbvlIABbsjFABcbgZABbhrSABbfxHABbqbSABbliRABblqBABbdoAABbdoJABccqSABbjoOABbdpTABbfuPABbln
   BABcboQABblgDABbuaJABbujYABbfvKABbpwAABbnaNABbnaMABbsjZABbffUABbglYABcdaREDsfKbnbWsfLADsfKbd
   oJsfLADsfKbdtKsfLADsfKbirHsfLADsfKbqrXsfLADsfKblgDsfLADsfKbtaDsfLADsfKbfjXsfLADsfKbmjVsfLHBb
   kfFABbfuLdqSBbWABbXABbYABbZABcAABcBABcCABcDABcEABcFdrlMBbdqJABbdqEABbdqNABhmiKABbebOABbeeOAB
   befBABbehUABbemKABbenPABbeqPABbepRABtyCABhogOABbeuNABbeuUABbevKABbewDABhnvOABtzDABbevNABbewZ
   ABhnxJABbexJABbexWABbdvWABbeyEABbeyNABjpdNABbfaZABbfbNABuaPABbfdRABbfeCABbffUABbffZABucRABbf
   jBABbfjDABbfkEABbflAABbflLABbflMABbfmDABbfoBABbfoJABbfoSABbfpRABbfqBABbfqDABbfqDABbfqDABhptK
   ABbqpCABbftAABbftVABhqfJABbfuHABbfuNABbfvIABbgbEABbfxGABbfxWABbfzCABbgbIABbgeOABbgfOABbgiDAB
   bgiTABbgkAABbgkAABbgkVABbglNABbglVABbgmKABbgzMABbgpAABbgzNABbgrXABbgtGABbfbRABbhrQABbhgOABbh
   iAABbhiZABbhdZABbhkKABbhkJABbhpCABhtuYABbhrUABbhrZABbhsOABbhtIABbhtQABbhwCABhumIABhuoWABbibK
   ABbidFABbidRABbiaQABbigCABuuWABuvKABbimIABbioKABbioKABhvrCABbitNABbiuIABbiuXABbivJABhweAABbi
   vVABbiwCABbkcPABbixEABvaNABbizOABbjaCABbjdGABbjbHABhxfOABbjiHABhxfQABbjjYABbjjVABbjkMABbjoJA
   BbjoKABvhFABbjpLABbjrCABbjrXABbjtPABvjEABhypFABvkEABbjwIABbjwLABbjwOABbjxIABjvvUABbjzIABhzfT
   ABhzfTABbxgBABbkaSABbkaSABvnBABifcQABiwySABbkdEABbkdNABvoDABbkfIABbkhHABbkhRABbkiZABbkoFABvr
   MABvqIABbkoYABiapOABbkqXABbkvWABbkwAABbkwCABbkwAABbkxUABbkyOABbkzYABbkzKABbkzVABblbQABblcKAB
   blcOABbldOABbldZABblgNABbljTABbllCABblpWABicfCABblpDABblmQABblqUABblrVABblvOABicnXABblxYABbl
   uJABbltHABwaWABbmaRABbmbMABbmcRABbmbFABwdGABbmjNABbmkQABiecGABbmpFABbmzWABbmtDABwjXABbmvXABw
   jGABwhWABbexEABbexHABbnaEABbmwIABbwsZABzsBABbnbBABbnbFABbnbLABbndUABbndJABifmXABwlTABbnjUABb
   nfHABbnnEABbnpDABiftLABbnpMABbnlFABbnuQABwoZABbnwKABboaDABbocWABbokEABigpFABbomDABwtSABbooVA
   BihjBABboqUABwvUABborYABbotRABbouSABbouTABiibTABhwxFABiifYABbpaKABiixGABbpeTABbpfHABbpbJABbp
   iCABbpjQABbplVABbpjTABbplHABbplWABbpmJABijbAABbpjGABbpsXABbpvIABxePABbpyXABbpyTABijrTABbpqVA
   BbqfEABijxEABijzAABbqiOABbqmZABbqlYABbqlVABxiKABbqnQABbqpPABbqpJABbqrLABhnvXABbqxHABilaXABbr
   aQABilnNABbrgAABbrgNABbrhOABimkUABbrjKABbrkFABimwJABineYABbrtAABbrtRABxtCABbruRABxtOABxtOABb
   saXABbsbSABbscNABbsdHABbsfYABxxJABbsjKABiotQABbskKABioxEABbsmIABhyqHABbssMABiqbHABiqcEABiqhO
   ABygAABygMABbtbGABiqoHABiqoGABiqpTABiqqTABbtcWABbtcXABbtcXABbteOAByiJABbthBAByiWABylYABirtLA
   BbtoOABbtqYABbttKAByoXABisnMABbtySABisrYABistPABbuaXABbueLAByrVABbuhSABbuiCABbuiHABituIABiuf
   VABiufVABbuoKAByzYABiupVABbuwSABbuwVABzbJABiuyAABbvhAABzgAABbvhWABbvhRABbviUABiwbUABbvmPABzj
   TABbvqLABbvsSABbvvHABzlSABixbSABixcXABznDABixiNABbwhEABixmKABbwiFABbwmCABbwmNABiycGABiyfBABb
   wqAABiykEABbwqQABifjBABzrXABbwtEABbwwHABztZABbwyOABbijDABizdVABizeJABiflBABiflKABbxgBABbxgEA
   BcckCABzxRABbxlPABbxlJABbxmBABbfiHABbxmVABbxmXABbxnHABbxoWABjanCABbxoVABbxqZABbxtRABbxwNABbx
   rFABbxxDABbxyTABbydBABbxtBABbxxQABbxxSABbxyIABjawSABjbiPABjbcVABbafBABbyiZABbyjBABbykKABjdtI
   ABbynKABjbzWABbagZABbahDABjceZABjcqCABbahNABbywMABbywYABbyxJABbyxLABbyzXABbyyQABbzdUABbzcCAB
   bzhXABbzeUABbzhJABbziKABbalRABbzlXABbznDABbamZABbzqUABbzqXABjetBABbzvJABbzvQABbapHABbzwSABtz
   FABjfpMABjfwOABbauOABbauXABcamYABcapXABcavYABcbdTABjhcQABcbhBABcbhXABcblJABcboXABjibNABhoyEA
   BcbsDABcbrOABcbtOABhpgOABcccIABccgEABjkoWABjkpXABcctOABccxDABccyJABjlcGABccyTABcdjSABcdpVABc
   dpWABcdmIABceaZABcecBABjmxMABceqLABbbwNABcesDABjnmDABbbzQABcfcLABbjmOABcfgDABjoxPABjpfUABbce
   WABbcfEABcfnKABjpyWABbchMABjqeGABcfpBABcfpBABcfqFABjqpIABcfxIABbcmLABcgaBABcgeXABcgfYABcgiGA
   BbcsKABjsrGABcgsWABcheMABchlTABbdcGABbddLABchpVABjuuOABbddWABjuwRABjvgWABjvlXABcicXABbdhMABc
   ifHABcifMABcifTABcigDABcigKABcihVABjwtS"

/-- The mappings of characters from `start` on, `rounds` bounding their number. -/
def mappingsFrom : (rounds : Nat) → (start : Nat) → List Nat → List (Nat × List Char)
  | rounds + 1, start, gap :: count :: rest =>
    (start + gap, (rest.take count).map Char.ofNat) ::
      mappingsFrom rounds (start + gap + 1) (rest.drop count)
  | _, _, _ => []

/-- The mappings that a list of numbers holds. -/
def mappings (ns : List Nat) : List (Nat × List Char) := mappingsFrom ns.length 0 ns

/-- What mapped characters are mapped to. -/
def mappingTable : CodeMap (List Char) := ⟨(mappings (numbers mappingText)).toArray⟩

/-- The characters that are not allowed. -/
def refusedTable : RangeTable := RangeTable.ofText
  "eYbFbcABGDHABAUApHAbMBbYBDAcDHbBDGQWAhKAbWBcHBdXNcHBbXBPAbCBBALEbGGcXAgFAIBCBWAHABCEBJBCBEHB
   DCAFBZBDAGDCBWAHACACACBBAFDCBDCBGEABGRJDAJADAWAHACAFBKADADBBOEBMGHADAIBCBWAHACAFBJBCBDGDDCAF
   BSJCAGCDAECCABACCCCDCMDFCDAEBBFBNVENADAXAQBJADAEGCADACBEBKGWADAXAKAFBJADAEGCEDAEBKADLNADAbZA
   DAGDQBbAADASCYAJABBHCBDGABAIFKBDLcGDbDbKCABAFAYABAXBFABAHAKBEbFcUAbKDbNAbKAPANbKhQABEBBoNAEB
   HABAEBbPAEBbHAEBHABAEBPAcFAEBcPBbGCbAFdIBGByQAbCCdLGWIYIULNADACLdQBKFKFbAFdLGbREcSJbFAMDMDBC
   bQBFKbSDbAFLCcKBcNAbDBLFKFOBbUBMTcZAgKHcICPCcKEbRBLHbREuOBGBbMBGBIABABABAbFBcBAPAOBGATBDAJAO
   BUCBGcCEIBbBANCbINbHOfKDzQVLUbOTcpKBoSEbTABEBBcEGCNYIHAHAHAHAHAHAHAHAeWbHbAAdLLiGbPcMAdIBdZE
   bRAdQAdIJbVAqCAEAQAbqrSCcDInKThCHiNTcICKFcEHcSHMFeMKbECdAALDbHAcDIOBKBdZXbCJGBGBGIHAHAcIDeWB
   KFqnSLXDbXmnBoCBeCbLHLFEbAAFABACACAzAbFbIAGGQAbHBTAEDFAfFBBAhICGBGBGBDCHAHQMAbAATACAPBObHeTE
   DDbTCdKANCBbUbUeZbDCbXObCDbKIbEEbREbEAbLDObPgCBKFbKDbKDbOHcAKMAPAHACALAPAHACCcALlZIWJIXGAbQA
   JcQGBBAbSACCBBXAcUHJbVTACEbHCbBEbBbLcEDUBbYACEIADAbDBDDKGJGcMbFbNDMIcCCbDBbBEbAGELHdBcVcCbZM
   bZGbUHKFbMCbDHChZbFAbQADBCPGHJbGbUHbQVbAbLbCTXIdADbKIcKAFMZGKFcBASHbNIdSAUKSAbVcJHABAEAPALFc
   HEKFEAIBCBWAHACAFAKBCBDBBFBEHBHCFKKABBBAbMAKABBBAEAKACHCbCdOAFbDcUHKgJcCBbMbHcRKKFNScGFKFUbB
   bBBPDXhCcIdVdFLIBBBIACAbEACBMIKcRIBbUBLbAcUHdFMcVGKdHIdJbINKFJAbTAOJbDCbGBWAOcUHACAbSCBACAJH
   KFGACAbLACAGGKFbSDKjLZGRAbPCbDdGBObYMbjNdXeHAFKhOdxJdVMbpGPWJfxREwLkdCcGcoRvXGbFAKDdDAKFbEBG
   JcSJKAHAVETqPcGhPdNEZBZbRcXDcFGRcLFKHIkxYbObGdSeLmwQEAHACAlFOBbCDBBNEHpGdkTeDENCJGKBIfvFjTCq
   UFXORObUBXIeMcHjMJbNBhMUcSeRULULdJIZfEdHAcTACBBBCBEAMABAHAcNAEBIAHAbCAEAFABCHAnCBlGBbbAOFAPb
   qLbFFGiEHARBHACAFEcKbGBeHbTCOBKDCmHbFQcGEBrVbQiFbRDBhJbFAWHCiPHAEACAPAhPBQbOcYDKDCbeEcQcXcJh
   LEAbBACABBBAKAEABABFBDBABABADACABBBABABABABACABBEAHAEAEABAKAREDAFARbZCkJbSDdWLPBPAPAbLKgRcDb
   DMbSDJGCNGfXblXCRCNCiKFMDBOMDcEHKFbOHbEBMDCNJbMnGHOBNCLCcFABDQBMDKGfRAdZbnOclfCbFgmOBioCBlbL
   OxYdqVuWcfXhhZEmoObogxXjGlecT"

/-- The characters that are left out. -/
def ignoredTable : RangeTable := RangeTable.ofText
  "gRAzXAfiLBckHBdHEdaPAdGEFFgkYAczmPPjFAgEActoXDhwXHbtljHjF"

/-- What becomes of a character. -/
def treatment (c : Char) : Treatment :=
  match mappingTable.find? c.toNat with
  | some replacement => .mapped replacement
  | none =>
    if ignoredTable.contains c.toNat then .ignored
    else if refusedTable.contains c.toNat then .refused
    else .valid

end ServerConnections.Domain
