import ServerConnections.Text.CodePoints

/-!
# Canonical decompositions and combining classes

A character may be canonically equivalent to one or two others: its
decomposition, which is a single step here. A combining mark has a class other
than zero; marks of different classes may change places.
-/

namespace ServerConnections.Text.Canonical

/-- The combining classes: the gap before each range, its length less one, and
the class. -/
def classText : String :=
  "bdOUiWAAiYADiMAAiYAAiIAEiMABhUADiMABhUAKiMAEBADiMACiWCAiWCAjGAAiWACiMACiWABiMBCiWADiMAAiWAAi
   YABiMAAiWAAiZABjAAAiZABjAAAiZAMiWkPEiWkFAiMADiWAAiMACiWAAiOAAiMAFiWAFiMABiWAAiMABiWAAiOAAiUA
   AiWAAKAALAAMAANAAOAAPAAQAARAASABTAAUAAVAAWBAXBAYAAZBAiWAAiMBAScUHiWAAbEAAbFAAbGbWAbBAAbCAAbD
   AAbEAAbFAAbGAAbHAAbIABiWABiMAEiWAAiMABiWAAiMQAbJdXGiWCDiWAAiMAAiWCBiWBAiMABiWAAiMbJAbKbEAiWA
   AiMABiWAAiMABiWACiMAAiWABiMAAiWAAiMACiWAAiMAAiWAAiMAAiWAAiMAAiWAAiMABiWgEGiWAAiMAAiWJAiMYDiW
   BIiWBCiWBEiWbRCiMcHBiWACiMADiWbQEiWAEiMANiWBAiMABiWAAiMABiWAAiMACiWACiMAAbBAAbCAAbDACiWAAiMA
   BiWABiMAEiWcIAHQAJDAiWAAiMABiWdZAHQAJbWAiWcJAHQAJeGAHQAJeGAHQAJeXAJeGAHQAJHAdGAAdNdXAHQAJeFB
   JQAJeUAJeFBdZAAJNDeDeEBeOAAJNDeScYBiMbBAiMBAiMBAiIcDAeZAAfABAfCFDfACAfABBiWAAJBBiWcKAiMeIAHB
   BJdEAiMbbRCiWbkMBJbEAJgBAJKAiWhVAiUfNAiOAAiWAAiMiLAiWAAiMcTAJUHiWCAiMbWEiWAFiMABiWAAiMBBiMAB
   iWABiMAEiWAAiMARiWAAiMCFiWAAiMADiWAAjAcUAHPAJbMAiWAAiMAGiWcCBJcGAHLBJcPAHfWCiWBABAEiMABiWADi
   MAAiWBGBEAiMGAiWDBiWhQBiWAAiMAGiWAAiMABiWAAjAAAiGAAiMAAhUAbKiWAAiYABiUAAiMAAiKAAiWAAiZAAiMAA
   iWAAiMbbSBiWABBADiWACBABiWEAiWDBBAAiWAAiMAAiWABBADiMAAiWeoCCiWfLAJdSbFiWvIAiKAAiUAAiYAAiOABi
   QeBBIbsqEAiWEJiWbGBiWdCBiWkQAJbLAJfVAJbBRiWcFCiMbLAJdRAHMAJjFAiWBBiWAAiMCBiWFBiWBAiWcAAJjMAJ
   bdzSAbAbdPGiWAGiMABiWblLAiMiSAiMfTEiWcmSAiMBAiWbOAiWAABAAiMEAJgJAiWAAiMwBDiWcNEiWmFBiWcZBiMB
   CiMcSBiMACiWAAiMAAiWADiMbXAiWAAiMAAiWAAiMhKAJbPAJOAJcFAJAAHcRCiWbWBJcKAHcYAJJAHeCAJAAHgWAHAA
   JdCBHQAJYGiWDEiWdLCJeJAJDAHXAiWdVAJAAHjRAJAAHeWAJeOAJAAHeLAJkJAJAAHjYBJEAHgAAJdFAJSAJdDAJqFA
   JjYAHBBJdDAJqJBJyzCAJdsAEBcHGiWbuNBGbdaYABhwOBiIACBDAiSAEiIIHiMCEiWABiMbEDiWfSCiWffFGiWBQiWC
   GiWBBiWBEiWdWAiWgEGiWoLAiWcJDiWtOBiYAAiMAAiWjUAiWAAiMjJAiWCAiWHBiWFAiWsGGiMeFFiWAAH"

/-- The classes of ranges of code points from `start` on. -/
def classesFrom (start : Nat) : List Nat → List (Nat × Nat)
  | gap :: length :: c :: rest =>
    (List.range (length + 1)).map (fun i => (start + gap + i, c)) ++
      classesFrom (start + gap + length + 1) rest
  | _ => []

/-- The combining classes other than zero. -/
def classTable : CodeMap Nat := ⟨(classesFrom 0 (numbers classText)).toArray⟩

/-- The decompositions: the gap before each character, then the two characters
that it is equivalent to, the second being zero where there is one only. -/
def decompositionText : String :=
  "hKcNbdOAcNbdPAcNbdQAcNbdRAcNbdWAcNbdYBcPbfBAcRbdOAcRbdPAcRbdQAcRbdWAcVbdOAcVbdPAcVbdQAcVbdWB
   dAbdRAdBbdOAdBbdPAdBbdQAdBbdRAdBbdWCdHbdOAdHbdPAdHbdQAdHbdWAdLbdPCdTbdOAdTbdPAdTbdQAdTbdRAdT
   bdWAdTbdYBdVbfBAdXbdOAdXbdPAdXbdQAdXbdWAeBbdOAeBbdPAeBbdQAeBbdWBeGbdRAeHbdOAeHbdPAeHbdQAeHbd
   RAeHbdWCeNbdOAeNbdPAeNbdQAeNbdWAeRbdPBeRbdWAcNbdSAdTbdSAcNbdUAdTbdUAcNbfCAdTbfCAcPbdPAdVbdPA
   cPbdQAdVbdQAcPbdVAdVbdVAcPbeAAdVbeAAcQbeAAdWbeACcRbdSAdXbdSAcRbdUAdXbdUAcRbdVAdXbdVAcRbfCAdX
   bfCAcRbeAAdXbeAAcTbdQAdZbdQAcTbdUAdZbdUAcTbdVAdZbdVAcTbfBAdZbfBAcUbdQAeAbdQCcVbdRAeBbdRAcVbd
   SAeBbdSAcVbdUAeBbdUAcVbfCAeBbfCAcVbdVDcWbdQAeCbdQAcXbfBAeDbfBBcYbdPAeEbdPAcYbfBAeEbfBAcYbeAA
   eEbeAEdAbdPAeGbdPAdAbfBAeGbfBAdAbeAAeGbeADdBbdSAeHbdSAdBbdUAeHbdUAdBbdZAeHbdZCdEbdPAeKbdPAdE
   bfBAeKbfBAdEbeAAeKbeAAdFbdPAeLbdPAdFbdQAeLbdQAdFbfBAeLbfBAdFbeAAeLbeAAdGbfBAeMbfBAdGbeAAeMbe
   ACdHbdRAeNbdRAdHbdSAeNbdSAdHbdUAeNbdUAdHbdYAeNbdYAdHbdZAeNbdZAdHbfCAeNbfCAdJbdQAePbdQAdLbdQA
   eRbdQAdLbdWAdMbdPAeSbdPAdMbdVAeSbdVAdMbeAAeSbeAbHdBbePAeHbePNdHbePAeNbePbCcNbeAAdTbeAAcVbeAA
   eBbeAAdBbeAAeHbeAAdHbeAAeNbeAAiMbdSAjSbdSAiMbdPAjSbdPAiMbeAAjSbeAAiMbdOAjSbdOBhObdSAiUbdSAvE
   bdSAvFbdSAhQbdSAiWbdSCcTbeAAdZbeAAcXbeAAeDbeAAdBbfCAeHbfCAsWbdSAsXbdSAqXbeAAzIbeAAeCbeADcTbd
   PAdZbdPCdAbdOAeGbdOAhPbdPAiVbdPAhQbdPAiWbdPAiIbdPAjObdPAcNbeDAdTbeDAcNbeFAdTbeFAcRbeDAdXbeDA
   cRbeFAdXbeFAcVbeDAeBbeDAcVbeFAeBbeFAdBbeDAeHbeDAdBbeFAeHbeFAdEbeDAeKbeDAdEbeFAeKbeFAdHbeDAeN
   beDAdHbeFAeNbeFAdFbfAAeLbfAAdGbfAAeMbfACcUbeAAeAbeAGcNbdVAdTbdVAcRbfBAdXbfBAiGbdSAjMbdSAiFbd
   SAjLbdSAdBbdVAeHbdVAvMbdSAvNbdSAdLbdSAeRbdSkIbdOAAbdPABbeHAAbdWbdPbVbaVAJcHAGgMbdPAbjDbdPAhB
   AAbjHbdPAbjJbdPAbjLbdPBbjRbdPBbjXbdPAbkBbdPAblIbdPZbjLbdWAbjXbdWAbkJbdPAbkNbdPAbkPbdPAbkRbdP
   AblJbdPZbkRbdWAblDbdWAbkXbdPAblDbdPAblHbdPEblQbdPAblQbdWbRboFbdOAboFbdWBboDbdPDbnQbdWEboKbdP
   AboIbdOAboTbdUKboIbdUbFbpObdUWbpLbdOAbpLbdWBbpJbdPDbqSbdWEbpQbdPAbpObdOAbpZbdUXbrWbeDAbrXbeD
   cVboGbdUAbpMbdUNboAbdUAbpGbdUAboAbdWAbpGbdWCboFbdUAbpLbdUCbvSbdWAbvTbdWAboGbdWAbpMbdWAboHbdW
   AbpNbdWCboIbdSAbpObdSAboIbdWAbpObdWAboObdWAbpUbdWCbwIbdWAbwJbdWAbpDbdWAbqJbdWAboTbdSAbpZbdSA
   boTbdWAbpZbdWAboTbdZAbpZbdZAboXbdWAbqDbdWCbpBbdWAbqHbdWlKciPckHAciPckIAcjWckIAciPckJAcjYckIf
   XcpHckIBcoNckIQcpEckIwZdmEdmYHdmMdmYCdmPdmYbJdlLdmYAdlMdmYAdlNdmYAdlSdmYAdlXdmYAdlYdmYAdmHdm
   YAdmLdmYeDdsHdrYAdsHdsXPdqVdrWAdqWdrWBdrJdrWdFdwKdwUCdwQdwUbIdvIdwUAdvJdwUAdvOdwUCdwDdwUiZeh
   BehQCehBegSAehBehRPefPegQAefQegQcCejYemPcBelYelQAelZelQAelYemPeTeqWerMePevNewJGevUewJAevUewK
   BevUevQAevYewJeWfaSfaKAfaTfaKAfaSfbJfLfgJffUBfgJffZAfgMffUAfgJfgPnSfuGfyTJfuQfyTEfuVfyTEfvAf
   yTEfvFfyTMfuEfyRJfwBfwCBfwBfwEAfyOfwQBfyPfwQIfwBfwQRfxIfyTJfxSfyTEfxXfyTEfyCfyTEfyHfyTMfxGfy
   ReEgcZgdIedBkgBkhXBkgDkhXBkgFkhXBkgHkhXBkgJkhXDkgNkhXbOkiCkhXBkiEkhXCkiGkhXAkiHkhXBkiKkhXbaY
   cNbeZAdTbeZAcObdVAdUbdVAcObeXAdUbeXAcObfLAdUbfLAhRbdPAiXbdPAcQbdVAdWbdVAcQbeXAdWbeXAcQbfLAdW
   bfLAcQbfBAdWbfBAcQbfHAdWbfHAkObdOAkPbdOAkObdPAkPbdPAcRbfHAdXbfHAcRbfKAdXbfKAvGbdUAvHbdUAcSbd
   VAdYbdVAcTbdSAdZbdSAcUbdVAeAbdVAcUbeXAeAbeXAcUbdWAeAbdWAcUbfBAeAbfBAcUbfIAeAbfIAcVbfKAeBbfKA
   hZbdPAjFbdPAcXbdPAeDbdPAcXbeXAeDbeXAcXbfLAeDbfLAcYbeXAeEbeXAllMbdSAllNbdSAcYbfLAeEbfLAcYbfHA
   eEbfHAcZbdPAeFbdPAcZbdVAeFbdVAcZbeXAeFbeXAdAbdVAeGbdVAdAbeXAeGbeXAdAbfLAeGbfLAdAbfHAeGbfHAiF
   bdPAjLbdPAiFbdWAjLbdWAmUbdOAmVbdOAmUbdPAmVbdPAdCbdPAeIbdPAdCbdVAeIbdVAdEbdVAeKbdVAdEbeXAeKbe
   XAlmWbdSAlmXbdSAdEbfLAeKbfLAdFbdVAeLbdVAdFbeXAeLbeXAnIbdVAnJbdVAnObdVAnPbdVAlnEbdVAlnFbdVAdG
   bdVAeMbdVAdGbeXAeMbeXAdGbfLAeMbfLAdGbfHAeMbfHAdHbeYAeNbeYAdHbfKAeNbfKAdHbfHAeNbfHAnWbdPAnXbd
   PAnYbdWAnZbdWAdIbdRAeObdRAdIbeXAeObeXAdJbdOAePbdOAdJbdPAePbdPAdJbdWAePbdWAdJbdVAePbdVAdJbeXA
   ePbeXAdKbdVAeQbdVAdKbdWAeQbdWAdLbdVAeRbdVAdMbdQAeSbdQAdMbeXAeSbeXAdMbfLAeSbfLAeAbfLAeMbdWAeP
   bdYAeRbdYBoTbdVEcNbeXAdTbeXAcNbdXAdTbdXAhMbdPAiSbdPAhMbdOAiSbdOAhMbdXAiSbdXAhMbdRAiSbdRAlpOb
   dQAlpPbdQAjYbdPAjZbdPAjYbdOAjZbdOAjYbdXAjZbdXAjYbdRAjZbdRAlpObdUAlpPbdUAcRbeXAdXbeXAcRbdXAdX
   bdXAcRbdRAdXbdRAhUbdPAjAbdPAhUbdOAjAbdOAhUbdXAjAbdXAhUbdRAjAbdRAlqMbdQAlqNbdQAcVbdXAeBbdXAcV
   beXAeBbeXAdBbeXAeHbeXAdBbdXAeHbdXAiEbdPAjKbdPAiEbdOAjKbdOAiEbdXAjKbdXAiEbdRAjKbdRAlrGbdQAlrH
   bdQAqAbdPAqBbdPAqAbdOAqBbdOAqAbdXAqBbdXAqAbdRAqBbdRAqAbeXAqBbeXAdHbeXAeNbeXAdHbdXAeNbdXAqPbd
   PAqQbdPAqPbdOAqQbdOAqPbdXAqQbdXAqPbdRAqQbdRAqPbeXAqQbeXAdLbdOAeRbdOAdLbeXAeRbeXAdLbdXAeRbdXA
   dLbdRAeRbdRGbkJbeHAbkJbeIAltGbdOAltHbdOAltGbdPAltHbdPAltGbgCAltHbgCAbjDbeHAbjDbeIAltObdOAltP
   bdOAltObdPAltPbdPAltObgCAltPbgCAbkNbeHAbkNbeIAltWbdOAltXbdOAltWbdPAltXbdPCbjHbeHAbjHbeIAluEb
   dOAluFbdOAluEbdPAluFbdPCbkPbeHAbkPbeIAluMbdOAluNbdOAluMbdPAluNbdPAluMbgCAluNbgCAbjJbeHAbjJbe
   IAluUbdOAluVbdOAluUbdPAluVbdPAluUbgCAluVbgCAbkRbeHAbkRbeIAlvCbdOAlvDbdOAlvCbdPAlvDbdPAlvCbgC
   AlvDbgCAbjLbeHAbjLbeIAlvKbdOAlvLbdOAlvKbdPAlvLbdPAlvKbgCAlvLbgCAbkXbeHAbkXbeIAlvSbdOAlvTbdOA
   lvSbdPAlvTbdPCbjRbeHAbjRbeIAlwAbdOAlwBbdOAlwAbdPAlwBbdPCblDbeHAblDbeIAlwIbdOAlwJbdOAlwIbdPAl
   wJbdPAlwIbgCAlwJbgCBbjXbeIBlwRbdOBlwRbdPBlwRbgCAblHbeHAblHbeIAlwYbdOAlwZbdOAlwYbdPAlwZbdPAlw
   YbgCAlwZbgCAbkBbeHAbkBbeIAlxGbdOAlxHbdOAlxGbdPAlxHbdPAlxGbgCAlxHbgCAbkJbdOAbkJbdPAbkNbdOAbkN
   bdPAbkPbdOAbkPbdPAbkRbdOAbkRbdPAbkXbdOAbkXbdPAblDbdOAblDbdPAblHbdOAblHbdPCltGbgFAltHbgFAltIb
   gFAltJbgFAltKbgFAltLbgFAltMbgFAltNbgFAltObgFAltPbgFAltQbgFAltRbgFAltSbgFAltTbgFAltUbgFAltVbg
   FAluMbgFAluNbgFAluObgFAluPbgFAluQbgFAluRbgFAluSbgFAluTbgFAluUbgFAluVbgFAluWbgFAluXbgFAluYbgF
   AluZbgFAlvAbgFAlvBbgFAlwYbgFAlwZbgFAlxAbgFAlxBbgFAlxCbgFAlxDbgFAlxEbgFAlxFbgFAlxGbgFAlxHbgFA
   lxIbgFAlxJbgFAlxKbgFAlxLbgFAlxMbgFAlxNbgFAbkJbdUAbkJbdSAlxObgFAbkJbgFAbkEbgFBbkJbgCAmaGbgFAb
   jDbdUAbjDbdSAbjDbdOAbjDbdPAbjDbgFBbkRACgMbgCAlxSbgFAbkPbgFAbkGbgFBbkPbgCAmaWbgFAbjHbdOAbjHbd
   PAbjJbdOAbjJbdPAbjJbgFAmaPbdOAmaPbdPAmaPbgCAbkRbdUAbkRbdSAblIbdOAblIbdPCbkRbgCAblIbgCAbjLbdU
   AbjLbdSAbjLbdOAbjLbdPBmdAbdOAmdAbdPAmdAbgCAblDbdUAblDbdSAblJbdOAblJbdPAbkZbeHAbkZbeIAblDbgCA
   blJbgCAbjXbdUAbjXbdSAbjXbdOAbjXbdPAbjTbeIAgMbdOAgMbdPAdSAClyAbgFAblHbgFAblMbgFBblHbgCAmcSbgF
   AbjRbdOAbjRbdPAbkBbdOAbkBbdPAbkBbgFAgYACmdEAAmdFAlGbkBADcXAAcNbdYeGmsMbfSAmsObfSSmsQbfSbEmuY
   bfSAmvCbfSAmvAbfScAmwXbfSEmxCbfSCmxFbfSXmyDbfSBmyFbfSbAmzCbfSCmzJbfSCmzLbfSBmzObfSWcJbfSBnaN
   bfSKmzTbfSAcIbfSAcKbfSAnaQbfSAnaRbfSCnbEbfSAnbFbfSCnbIbfSAnbJbfSGnbMbfSAnbNbfSCnbUbfSAnbVbfS
   CnbYbfSAnbZbfSbIndAbfSAndGbfSAndHbfSAndJbfSbWnbObfSAnbPbfSAncJbfSAncKbfSGndQbfSAndRbfSAndSbf
   SAndTbfScHseYAAseZAcxTqgBbfScbNshNskNBshPskNBshRskNBshTskNBshVskNBshXskNBshZskNBsiBskNBsiDsk
   NBsiFskNBsiHskNBsiJskNCsiMskNBsiOskNBsiQskNGsiXskNAsiXskOBsjAskNAsjAskOBsjDskNAsjDskOBsjGskN
   AsjGskOBsjJskNAsjJskOWshIskNJskRskNNslFskNBslHskNBslJskNBslLskNBslNskNBslPskNBslRskNBslTskNB
   slVskNBslXskNBslZskNBsmBskNCsmEskNBsmGskNBsmIskNGsmPskNAsmPskOBsmSskNAsmSskOBsmVskNAsmVskOBs
   mYskNAsmYskOBsnBskNAsnBskOWslAskNCsnVskNAsnWskNAsnXskNAsnYskNDsoJskNcxtHcbdGAAbmzSAAccbYAAcb
   iEAAbpzDAAbdpYAAbfuBAAcilOAAcilOAAbhvLAAcdfTAAbgkDAAbhvCAAblcOAAbsvXAAbwhPAAbyvVAAbzkKAAbzwQ
   AAcctJAAbodUAAbpiHAAbqtDAAbrwWAAbycBAAcdbUAAcghTAAbdtAAAbfpTAAbonSAAbrfNAAbyvDAAchwWAAbjiUAA
   bqjZAAbyrLAAcaaUAAblkRAAbxeMAAbzoHAAbjxIAAbnbBAAbplIAAbroEAAccvUAAbedAAAbeyPAAbfjYAAbmeEAAbo
   lVAAbrfCAAbtaTAAbwmJAAbytQAAbywYAAcbtNAAcfgSAAcgwLAAchvMAAbtqYAAbuaHAAbvoYAAbxxPAAcdrOAAciaP
   AAcapAAAbhrBAAbjzOAAbvcQAAbwrEAAbriGAAbttIAAcbhYAAcfeLAAbhqUAAbizQAAboeLAAbppQAAbqbNAAbvkPAA
   bvuTAAcexVAAbfjMAAbwrRAAbfaAAAbezKAAbugIAAbvqCAAbxzDAAcezLAAcavOAAblkXAAbodUAAcaqOAAbdqFAAbi
   uXAAbkjYAAbrtNAAbsmIAAbfmDAAbtvFAAbefFAAbkfXAAbdoNAAbpfGAAbmlCAAbvkCAAbfsTAAbhmCAAbtbTAAbycN
   AAcanIAAbouSAAcckUAAbpcQAAblmSAAbxoVAAblsYAAbslXAAbduSAAbevPAAbezHAAbnoZAAbvhVAAbxkHAAcaoWAA
   cdfRAAbfkVAAbfxQAAbhwTAAbjyQAAbmoBAAbqkSAAbtxAAAcerTAAcgmKAAcibNAAcidQAAbfhJAAbmxYAAbosDAAcc
   hUAAbjuAAAbkyQAAblcYAAbmcOAAbqcHAAbqxLAAbsdLAAbudEAAbvsEAAbwqPAAccfMAAbyiWAAccpFAAcduGAAbfcH
   AAbfhRAAbgcJAAbqsMAAbzuOAAcanIAAbjxHAAbkiVAAblrNAAbouGAAbvbIAAbrsVAAbdwUAAbgyJAAbiuXAAbjmWAA
   bkkIAAbrvEAAbscFAAbwiKAAbwpAAAcdjOAAcfeKAAcfhOAAcfpOAAbedFAAbucCAAcdeQAAcfcAAAbkrXAAbdtEAAbe
   qCAAbivEAAbiyHAAbmmJAAbodUAAbrcOAAbsuKAAbyjKAAccsQAAcikZAAbmvOAAcewSAAbfgRAAbneXAAbnjNAAbpjT
   AAbpxCAAbryNAAbslLAAbtpRAAbvjKAAcfsGAAbevTAAbleSAAcezOAAbejJAAbjgRAAbpqGAAccfQAAbkeTAAbkvSAA
   bnkXAAbrtNAAcfaCAAbfcZAAbfvRAAbizTAAbmrBAAbndEAAbnqMAAbpgFAAbryKAAbsqSAAbwhDAAbzvBAAbzvTAAcd
   fOAAcfdQAAbfnRAAbpyGAAbfwFAAbrcQAAbseAAAbytEAAcfbFAAchfJAAcibVAAbnfZAAbppBAAbxfCAAbunBAAbuqI
   AAbveOAAbrlWAAbqqRAAcauAAAbdvKAAbxrYAAbfdQAAbfbRAAbjvYAAbllBAAbvhEAAbirDAAbpiKAAbmxGAAccgHAA
   bzqAAAcexXAAcacHAAbjxRAAbeuAAAbgmIACbhlYABbmuUACbfaCAAbrpYAAbszQAAbtxSAAbtzAAAbtzHAAbuaXAAcf
   iCAAbvgGAAbwjTABbyuCABcaqIACccqAAAccxPADcfxVAAcfyIAAcgaAAAchsUAAccwKAAcfbZAAbeeOAAbeqPAAbeuN
   AAbfjDAAbfkEAAbfoJAAbgkZAAbgpAAAbgsUAAbhkYAAbhoYAAbizSAAbjaCAAbkoYAAbkxCAAbkyOAAblcKAAbmjNAA
   bmpEAAbmvXAAbnpDAAbplVAAbpsCAAbqcGAAbqyWAAbrgDAAbrzMAAbtrDAAbtxUAAbtyFAAbtyEAAbtyMAAbtySAAbt
   yZAAbuaVAAbuaWAAbuhSAAbukFAAbuwMAAbvsEAAbvsZAAbvvDAAbwgWAAbwmNAAbxfHAAbxkRAAbxkRAAbydBAAbzxO
   AAcacSAAcaqRAAcasVAAcbiPAAcbkQAAcclAAAccqAAAcfdRAAcfoPAAcfqXAAbknTAAilgGAAbxgYACbdpMAAbeyNAA
   bevOAAbecUAAbeuFAAbewMAAbfjBAAbflAAAbgkZAAbgiFAAbgkVAAbgnQAAbhlYAAbhpJAAbhuYAAbhvOAAbifYAAbi
   nOAAbjxQAAbjxXAAbkdLAAbkgBAAbkrOAAbkwCAAbktKAAbkyOAAbkwUAAblcKAAbleYAAbluIAAblxSAAblzUAAbmjU
   AAbmuUAAbnbBAAbnbFAAbndMAAbosFAAbouSAAbpjTAAbpzNAAbpyXAAbqcGAAbqlYAAbqyWAAbtiDAAbrgNAAbrlFAA
   brpYAAbscNAAbsiGAAbskHAAbssZAAbstBAAbszQAAbtaHAAbtbGAAbteOAAbteEAAbttKAAbumBAAbuwMAAbvdRAAbv
   mHAAbvsEAAbweWAAbwmNAAbxtAAAbxzBAAbzhXAAbzzLAAcacCAAcacSAAcaoDAAcaqIAAcaoPAAcaqRAAcaqOAAcapX
   AAcasVAAcavYAAcbkQAAccgEAAccsGAAcddPAAcdmCAAcezSAAcfdRAAcfiCAAcfnFAAcfoPAAcfpBAAcfqXAAcgsWAA
   cilOAAibdYAAibdSAAifnPAAwoZAAyhCAAyiJAAirbLAAivbCAAjhxZAAciiDAAcilAAcPcfPceEBcgOceHKcgFceRAc
   gFceSAdreFceRAdreFceSAcfGceHAcfGceIAcfGceMAcfHceMAcfIceMAcfJceMAcfKceMAcfLceMAcfMceMBcfOceMA
   cfPceMAcfQceMAcfRceMAcfSceMBcfUceMBcfWceMAcfXceMBcfZceMAcgAceMBcgCceMAcgDceMAcgEceMAcgFceMAc
   gGceMAcfLceJAcfHcePAcfRcePAcgAcePdzEdvdYbdVbAdveGbdVebLdzgBdzhIBdzgDdzhIOdzgNdzhIfAdzlXdzlNA
   dzlYdzlNuTeagLeagCAeagLeahBcCeaiSealLBeaiUeakXIeajBealECeajGealLbZealEealEBealEeakUAealEealL
   jIeauReauSAeauReauIBeauReauVjRebeMebeDAebeNebeDbiIecmVecmQbbgAfdsWfdsWAfdsWfdtHAfdsWfdsXAfdt
   HfdsXAfdsWfdsYAfdsZfdsXAfdtAfdsXAfdsZfdsYeqPfijVfijVAfijRfijVAfijXfijVblwDgufVgugJAgufWgugJA
   gugDgugSAgugDgugTAgugDgugUAgugDgugVAgugDgugWdIgujPgugJAgujQgugJAgujRgugSAgujSgugSAgujRgugTAg
   ujSgugTehlFbdqJAAbdqEAAbdqNAAhmiKAAbebOAAbeeOAAbefBAAbehUAAbemKAAbenPAAbeqPAAbepRAAtyCAAhogO
   AAbeuNAAbeuUAAbevKAAbewDAAhnvOAAtzDAAbevNAAbewZAAhnxJAAbexJAAbexWAAbdvWAAbeyEAAbeyNAAjpdNAAb
   faZAAbfbNAAuaPAAbfdRAAbfeCAAbffUAAbffZAAucRAAbfjBAAbfjDAAbfkEAAbflAAAbflLAAbflMAAbfmDAAbfoBA
   AbfoJAAbfoSAAbfpRAAbfqBAAbfqDAAbfqDAAbfqDAAhptKAAbqpCAAbftAAAbftVAAhqfJAAbfuHAAbfuNAAbfvIAAb
   gbEAAbfxGAAbfxWAAbfzCAAbgbIAAbgeOAAbgfOAAbgiDAAbgiTAAbgkAAAbgkAAAbgkVAAbglNAAbglVAAbgmKAAbgz
   MAAbgpAAAbgzNAAbgrXAAbgtGAAbfbRAAbhrQAAbhgOAAbhiAAAbhiZAAbhdZAAbhkKAAbhkJAAbhpCAAhtuYAAbhrUA
   AbhrZAAbhsOAAbhtIAAbhtQAAbhwCAAhumIAAhuoWAAbibKAAbidFAAbidRAAbiaQAAbigCAAuuWAAuvKAAbimIAAbio
   KAAbioKAAhvrCAAbitNAAbiuIAAbiuXAAbivJAAhweAAAbivVAAbiwCAAbkcPAAbixEAAvaNAAbizOAAbjaCAAbjdGAA
   bjbHAAhxfOAAbjiHAAhxfQAAbjjYAAbjjVAAbjkMAAbjoJAAbjoKAAvhFAAbjpLAAbjrCAAbjrXAAbjtPAAvjEAAhypF
   AAvkEAAbjwIAAbjwLAAbjwOAAbjxIAAjvvUAAbjzIAAhzfTAAhzfTAAbxgBAAbkaSAAbkaSAAvnBAAifcQAAiwySAAbk
   dEAAbkdNAAvoDAAbkfIAAbkhHAAbkhRAAbkiZAAbkoFAAvrMAAvqIAAbkoYAAiapOAAbkqXAAbkvWAAbkwAAAbkwCAAb
   kwAAAbkxUAAbkyOAAbkzYAAbkzKAAbkzVAAblbQAAblcKAAblcOAAbldOAAbldZAAblgNAAbljTAAbllCAAblpWAAicf
   CAAblpDAAblmQAAblqUAAblrVAAblvOAAicnXAAblxYAAbluJAAbltHAAwaWAAbmaRAAbmbMAAbmcRAAbmbFAAwdGAAb
   mjNAAbmkQAAiecGAAbmpFAAbmzWAAbmtDAAwjXAAbmvXAAwjGAAwhWAAbexEAAbexHAAbnaEAAbmwIAAbwsZAAzsBAAb
   nbBAAbnbFAAbnbLAAbndUAAbndJAAifmXAAwlTAAbnjUAAbnfHAAbnnEAAbnpDAAiftLAAbnpMAAbnlFAAbnuQAAwoZA
   AbnwKAAboaDAAbocWAAbokEAAigpFAAbomDAAwtSAAbooVAAihjBAAboqUAAwvUAAborYAAbotRAAbouSAAbouTAAiib
   TAAhwxFAAiifYAAbpaKAAiixGAAbpeTAAbpfHAAbpbJAAbpiCAAbpjQAAbplVAAbpjTAAbplHAAbplWAAbpmJAAijbAA
   AbpjGAAbpsXAAbpvIAAxePAAbpyXAAbpyTAAijrTAAbpqVAAbqfEAAijxEAAijzAAAbqiOAAbqmZAAbqlYAAbqlVAAxi
   KAAbqnQAAbqpPAAbqpJAAbqrLAAhnvXAAbqxHAAilaXAAbraQAAilnNAAbrgAAAbrgNAAbrhOAAimkUAAbrjKAAbrkFA
   AimwJAAineYAAbrtAAAbrtRAAxtCAAbruRAAxtOAAxtOAAbsaXAAbsbSAAbscNAAbsdHAAbsfYAAxxJAAbsjKAAiotQA
   AbskKAAioxEAAbsmIAAhyqHAAbssMAAiqbHAAiqcEAAiqhOAAygAAAygMAAbtbGAAiqoHAAiqoGAAiqpTAAiqqTAAbtc
   WAAbtcXAAbtcXAAbteOAAyiJAAbthBAAyiWAAylYAAirtLAAbtoOAAbtqYAAbttKAAyoXAAisnMAAbtySAAisrYAAist
   PAAbuaXAAbueLAAyrVAAbuhSAAbuiCAAbuiHAAituIAAiufVAAiufVAAbuoKAAyzYAAiupVAAbuwSAAbuwVAAzbJAAiu
   yAAAbvhAAAzgAAAbvhWAAbvhRAAbviUAAiwbUAAbvmPAAzjTAAbvqLAAbvsSAAbvvHAAzlSAAixbSAAixcXAAznDAAix
   iNAAbwhEAAixmKAAbwiFAAbwmCAAbwmNAAiycGAAiyfBAAbwqAAAiykEAAbwqQAAifjBAAzrXAAbwtEAAbwwHAAztZAA
   bwyOAAbijDAAizdVAAizeJAAiflBAAiflKAAbxgBAAbxgEAAcckCAAzxRAAbxlPAAbxlJAAbxmBAAbfiHAAbxmVAAbxm
   XAAbxnHAAbxoWAAjanCAAbxoVAAbxqZAAbxtRAAbxwNAAbxrFAAbxxDAAbxyTAAbydBAAbxtBAAbxxQAAbxxSAAbxyIA
   AjawSAAjbiPAAjbcVAAbafBAAbyiZAAbyjBAAbykKAAjdtIAAbynKAAjbzWAAbagZAAbahDAAjceZAAjcqCAAbahNAAb
   ywMAAbywYAAbyxJAAbyxLAAbyzXAAbyyQAAbzdUAAbzcCAAbzhXAAbzeUAAbzhJAAbziKAAbalRAAbzlXAAbznDAAbam
   ZAAbzqUAAbzqXAAjetBAAbzvJAAbzvQAAbapHAAbzwSAAtzFAAjfpMAAjfwOAAbauOAAbauXAAcamYAAcapXAAcavYAA
   cbdTAAjhcQAAcbhBAAcbhXAAcblJAAcboXAAjibNAAhoyEAAcbsDAAcbrOAAcbtOAAhpgOAAcccIAAccgEAAjkoWAAjk
   pXAAcctOAAccxDAAccyJAAjlcGAAccyTAAcdjSAAcdpVAAcdpWAAcdmIAAceaZAAcecBAAjmxMAAceqLAAbbwNAAcesD
   AAjnmDAAbbzQAAcfcLAAbjmOAAcfgDAAjoxPAAjpfUAAbceWAAbcfEAAcfnKAAjpyWAAbchMAAjqeGAAcfpBAAcfpBAA
   cfqFAAjqpIAAcfxIAAbcmLAAcgaBAAcgeXAAcgfYAAcgiGAAbcsKAAjsrGAAcgsWAAcheMAAchlTAAbdcGAAbddLAAch
   pVAAjuuOAAbddWAAjuwRAAjvgWAAjvlXAAcicXAAbdhMAAcifHAAcifMAAcifTAAcigDAAcigKAAcihVAAjwtSA"

/-- The decompositions of characters from `start` on. -/
def decompositionsFrom (start : Nat) : List Nat → List (Nat × Char × Option Char)
  | gap :: first :: second :: rest =>
    (start + gap, Char.ofNat first, if second = 0 then none else some (Char.ofNat second)) ::
      decompositionsFrom (start + gap + 1) rest
  | _ => []

/-- The decompositions, other than those of Hangul syllables. -/
def decompositionTable : CodeMap (Char × Option Char) :=
  ⟨(decompositionsFrom 0 (numbers decompositionText)).toArray⟩

/-- The characters with two parts that are never put together from them. -/
def excludedTable : RangeTable := RangeTable.ofText
  "bgEAchVHeUBBAdFACAbICCAjTBbmJAJAEAEAEAMAJABBBAIARAJAEAEAEAMAfyTABABABABABABAcJANABAHAHAHAHAC
   AKABAlRAdrKAdawMABAKMBEBABBBBBIddbRGdIF"

/-- The combining class of a character. -/
def combiningClass (c : Char) : Nat := (classTable.find? c.toNat).getD 0

end ServerConnections.Text.Canonical
