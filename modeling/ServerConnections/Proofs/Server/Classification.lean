import ServerConnections.Proofs.Url.Authority
import ServerConnections.Server.Classifier

/-!
# The host decides what a server counts as

An address that is an absolute URL counts as one of the cloud service by its host only.  The
domain of the service may stand in the user name, in the path, in the query or in the fragment:
it is not looked for there.  All of these may be any text, for none of it makes the address
anything but an absolute URL: cleaning and reading take away blanks and slashes behind the
authority, and the authority is as it was written.

* `Classifier.containsText_iff` — what it means that a text contains another
* `Classifier.hasCloudHost_web` — what a web address shows by itself
* `Classifier.isCloud_page` — a web page is of the cloud service by its host, and else its
  server is asked, once
-/

namespace ServerConnections

open Domain (HostName IsNameChar lowercase)
open Url (PlainAuthority IsTail)

/-! ## Cleaning -/

theorem Domain.IsNameChar.isBlank {c : Char} (plain : IsNameChar c) :
    Text.isBlank c = false := by
  have place := plain.toNat
  simp only [Text.isBlank, Bool.or_eq_false_iff, Bool.and_eq_false_iff,
    decide_eq_false_iff_not, beq_eq_false_iff_ne]
  omega

theorem Domain.IsNameChar.isSlash {c : Char} (plain : IsNameChar c) :
    Address.isSlash c = false := by
  have absent : c ∉ ['/'] := plain.notMem _ (by decide)
  simpa [Address.isSlash] using absent

/-- **Cleaning a web address takes away what is at the end of its tail.** -/
theorem Url.PlainAuthority.clean_web (a : PlainAuthority) {tail : List Char}
    (isTail : IsTail tail) : ∃ shown,
      Address.clean (String.ofList (a.web tail)) = String.ofList (a.web shown) ∧
        IsTail shown := by
  have front : (a.web tail).dropWhile Text.isBlank = a.web tail := rfl
  refine ⟨Text.dropWhileEnd Address.isSlash (Text.dropWhileEnd Text.isBlank tail), ?_,
    (isTail.shortened (Text.dropWhileEnd_isPrefix _ _)).shortened
      (Text.dropWhileEnd_isPrefix _ _)⟩
  rw [← String.toList_inj, Address.toList_clean, String.toList_ofList, String.toList_ofList,
    Text.trimChars, front, a.dropWhileEnd_web fun _ => IsNameChar.isBlank,
    a.dropWhileEnd_web fun _ => IsNameChar.isSlash]

namespace Classifier

variable {σ : Type}

/-! ## What an address shows -/

/-- **A text contains another one** if that is a run of its characters. -/
theorem containsText_iff {part s : List Char} : containsText part s ↔ part <:+: s := by
  induction s with
  | nil => simp [containsText]
  | cons c s ih =>
    rw [containsText, Bool.or_eq_true, List.isPrefixOf_iff_prefix, ih, List.infix_cons_iff]

/-- **A web address shows that it is of the cloud service** if its host does. -/
theorem hasCloudHost_web (cloudDomain : String) (a : PlainAuthority) {tail : List Char}
    (isTail : IsTail tail) : hasCloudHost cloudDomain (String.ofList (a.web tail)) ↔
      cloudDomain.toList <:+: lowercase a.host.text := by
  obtain ⟨u, parsed, host⟩ := a.parse?_web isTail
  simp only [hasCloudHost, parsed, host, Url.Host.text, containsText_iff, HostName.text_lower]

/-! ## Who is asked -/

/-- An address that is not empty shows what it is, or its server is asked. -/
theorem isCloud_of_clean_ne (classifier : Classifier σ) {url : String}
    (present : Address.clean url ≠ "") : classifier.isCloud (some url) =
      if hasCloudHost classifier.cloudDomain (Address.clean url) then pure true
      else classifier.isUp (Address.clean url) := by
  simp [isCloud, present]

/-- **A web address is of the cloud service if its host shows it**, and else its server is
asked by its clean form. -/
theorem isCloud_web (classifier : Classifier σ) (a : PlainAuthority) {tail : List Char}
    (isTail : IsTail tail) : let url := String.ofList (a.web tail)
    (classifier.cloudDomain.toList <:+: lowercase a.host.text →
      classifier.isCloud (some url) = pure true) ∧
    (¬ classifier.cloudDomain.toList <:+: lowercase a.host.text →
      classifier.isCloud (some url) = classifier.isUp (Address.clean url)) := by
  intro url
  obtain ⟨shown, clean, isTail⟩ := a.clean_web isTail
  have shows := hasCloudHost_web classifier.cloudDomain a isTail
  have present : Address.clean url ≠ "" := by
    rw [clean, ne_eq, String.ofList_eq_empty_iff]
    exact List.cons_ne_nil _ _
  rw [classifier.isCloud_of_clean_ne present, clean]
  exact ⟨fun inside => if_pos (shows.2 inside), fun outside => if_neg (mt shows.1 outside)⟩

/-- **Nothing but the host of a web page makes it one of the cloud service.**  Whatever user
name, path, query and fragment it has, it is of the service where its host contains the domain,
and no server is asked; else its server is asked, once, and the answer decides. -/
theorem isCloud_page (classifier : Classifier σ) (a : PlainAuthority)
    (small : ∀ c ∈ a.host.text, c.isUpper = false) (rest : String) :
    let url := "https://" ++ String.ofList a.text ++ "/" ++ rest
    (classifier.cloudDomain.toList <:+: a.host.text →
      classifier.isCloud (some url) = pure true) ∧
    (¬ classifier.cloudDomain.toList <:+: a.host.text →
      classifier.isCloud (some url) = classifier.isUp (Address.clean url)) := by
  intro url
  have page : url = String.ofList (a.web ('/' :: rest.toList)) := by
    rw [← String.toList_inj, String.toList_ofList]
    simp [url, PlainAuthority.web, PlainAuthority.pageMark]
  have decides := classifier.isCloud_web a (Url.isTail_slash rest.toList)
  rw [Domain.lowercase_of_small small, ← page] at decides
  exact decides

/-- A classifier whose servers are all up, with a record of those that were asked. -/
def recording : Classifier (List String) where
  cloudDomain := "codescan.io"
  isUp url := fun asked => (true, asked ++ [url])

/-- An authority that names the domain of the service before its host. -/
def misleading (host : HostName) : PlainAuthority where
  user := some "codescan.io".toList
  host := host
  socket := some 8443
  isUserChar := by decide +kernel
  socket_le := by decide

/-- The domain is in the user name, in the path, in the query and in the fragment: yet the
server is asked, but for one whose host contains the domain. -/
theorem isCloud_page_misleading :
    recording.isCloud (some
      "https://codescan.io@sq.example:8443/\t\\@codescan.io?q=codescan.io#@codescan.io/ ") [] =
      (true, ["https://codescan.io@sq.example:8443/\t\\@codescan.io?q=codescan.io#@codescan.io"]) ∧
    recording.isCloud (some "https://codescan.io@app.codescan.io:8443/@sq.example") [] =
      (true, []) := by
  let foreign : HostName := ⟨["sq".toList, "example".toList], by decide, by decide, by decide⟩
  let own : HostName :=
    ⟨["app".toList, "codescan".toList, "io".toList], by decide, by decide, by decide⟩
  have small : ∀ host ∈ [foreign, own], ∀ c ∈ host.text, c.isUpper = false := by
    have all : [foreign, own].all fun host => host.text.all fun c => !c.isUpper := by
      decide +kernel
    simpa using all
  constructor
  · have asks := (isCloud_page recording (misleading foreign) (small _ (.head _))
      "\t\\@codescan.io?q=codescan.io#@codescan.io/ ").2 (by decide +kernel)
    have page : "https://" ++ String.ofList (misleading foreign).text ++ "/" ++
        "\t\\@codescan.io?q=codescan.io#@codescan.io/ " =
        "https://codescan.io@sq.example:8443/\t\\@codescan.io?q=codescan.io#@codescan.io/ " := by
      decide +kernel
    rw [← page, asks]
    refine Prod.ext rfl ?_
    decide +kernel
  · have shows := (isCloud_page recording (misleading own) (small _ (.tail _ (.head _)))
      "@sq.example").1 (by decide +kernel)
    have page : "https://" ++ String.ofList (misleading own).text ++ "/" ++ "@sq.example" =
        "https://codescan.io@app.codescan.io:8443/@sq.example" := by decide +kernel
    rw [← page, shows]
    rfl

end Classifier

end ServerConnections
