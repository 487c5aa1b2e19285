import ServerConnections.Proofs.Server.Classification
import ServerConnections.Settings.Options

/-!
# One server, four spellings

A server may be given by its host name or by the address of its page, and each of them with or
without the number of a socket.  The page has a host, and it is compared in small letters.  The
bare name is no absolute URL, so it is searched as it is written.  A name with a socket is read
as an absolute URL if it can be one: what stands before the colon is a scheme where it begins
with a letter.  Such an address has no host but a number, and shows nothing.

* `Url.ofScheme?_digits` — what stands for a host behind any scheme, if it is a number
* `Url.parse?_append` — when a name with a socket is an absolute URL
* `Classifier.hasCloudHost_text`, `Classifier.hasCloudHost_text_socket` — what names show
* `Classifier.isCloud_spellings` — when all spellings of an address agree
-/

namespace ServerConnections

open Domain (HostName IsNameChar lowercase)
open Url (PlainAuthority IsTail)

/-! ## Numbers behind a scheme -/

theorem Domain.isNameChar_of_isDigit {c : Char} (digit : c.isDigit) : IsNameChar c :=
  .inl (by simp [Char.isAlphanum, digit])

namespace Url

section

variable {digits : List Char} (decimal : ∀ c ∈ digits, c.isDigit)
include decimal

/-- The host that digits stand for is written with digits and dots. -/
theorem isDigit_of_ofDomain? {host : Host} (read : Host.ofDomain? digits = some host) :
    ∀ c ∈ host.text, c.isDigit ∨ c = '.' := by
  have small : lowercase digits = digits := Domain.lowercase_of_small fun c there => by
    have place := Domain.isDigit_iff.1 (decimal c there)
    rw [Bool.eq_false_iff, ne_eq, Domain.isUpper_iff]
    omega
  rw [Domain.ofDomain?_of_isNameChar fun c there => Domain.isNameChar_of_isDigit (decimal c there),
    small, Host.ofAscii?] at read
  split at read
  · cases read
  split at read
  · obtain ⟨address, -, rfl⟩ := Option.map_eq_some_iff.1 read
    intro c there
    rcases Text.mem_joined there with ⟨part, listed, inside⟩ | dot
    · obtain ⟨value, -, rfl⟩ := List.mem_map.1 listed
      exact .inl (Nat.isDigit_of_mem_toDigits (by decide) (by decide) inside)
    · exact .inr (by simpa using dot)
  · cases read
    exact fun c there => .inl (decimal c there)

theorem isSlash_of_mem_digits {c : Char} (there : c ∈ digits) : isSlash c = false :=
  isSlash_of_isNameChar (Domain.isNameChar_of_isDigit (decimal c there))

/-- Digits behind a scheme of the web are the host. -/
theorem ofAuthority?_digits {scheme : String} (web : (webSockets.lookup scheme).isSome)
    {u : Url}
    (read : ofAuthority? scheme digits = some u) :
    ∃ host, Host.ofDomain? digits = some host ∧ u.host = some host := by
  have plain : ∀ c ∈ digits, IsNameChar c := fun c there =>
    Domain.isNameChar_of_isDigit (decimal c there)
  have whole : digits.span (!endsAuthority true ·) = (digits, []) := by
    have inside : ∀ c ∈ digits, (!endsAuthority true c) = true := fun c there => by
      have := isUserChar_of_isNameChar (plain c there)
      simp only [isUserChar, Bool.and_eq_true] at this
      exact this.1
    exact span_of_forall inside
  have noUser : Authority.splitUser digits = (none, digits) :=
    Authority.splitUser_of_notMem fun there =>
      (plain _ there).notMem ['@'] (by decide) (by simp)
  have noSocket : Authority.splitSocket false digits = (digits, none) := by
    have free : ∀ c ∈ digits, c ≠ ':' ∧ c ≠ '[' := fun c there => by
      have absent : c ∉ [':', '['] := (plain c there).notMem _ (by decide)
      simpa using absent
    simpa [Authority.splitSocket] using Authority.splitSocket_append free []
  rw [ofAuthority?] at read
  simp only [web, whole] at read
  obtain ⟨authority, found, rfl⟩ := Option.map_eq_some_iff.1 read
  simp only [Authority.ofText?, noUser, noSocket] at found
  split at found
  · cases found
  · obtain ⟨host, hosted, found⟩ := Option.bind_eq_some_iff.1 found
    obtain ⟨socket, -, rfl⟩ := Option.map_eq_some_iff.1 found
    rw [Authority.host?, if_pos rfl] at hosted
    obtain ⟨host, named, rfl⟩ := Option.map_eq_some_iff.1 hosted
    exact ⟨host, named, rfl⟩

/-- **A number has no host but an address**, whatever scheme stands before it; and schemes of
the web alone may refuse it. -/
theorem ofScheme?_digits (scheme : String) :
    (∃ u, ofScheme? scheme digits = some u ∧
      ∀ host ∈ u.host, ∀ c ∈ host.text, c.isDigit ∨ c = '.') ∨
    (ofScheme? scheme digits = none ∧ (webSockets.lookup scheme).isSome) := by
  rw [ofScheme?]
  split
  · have noHost : ¬ (digits.length ≥ 2 ∧ (digits.take 2).all isSlash) := by
      rintro ⟨long, slashes⟩
      obtain ⟨c, cs, rfl⟩ := List.exists_cons_of_length_pos (by omega : 0 < digits.length)
      have := isSlash_of_mem_digits decimal (c := c) (by simp)
      simp [this] at slashes
    rw [ofFile?, if_neg noHost]
    exact .inl ⟨_, rfl, fun host none => by cases none⟩
  split
  · rename_i web
    have noSlash : digits.dropWhile isSlash = digits := by
      cases digits with
      | nil => rfl
      | cons c cs => simp [isSlash_of_mem_digits decimal (c := c) (by simp)]
    rw [noSlash]
    cases read : ofAuthority? scheme digits with
    | none => exact .inr ⟨rfl, web⟩
    | some u =>
      obtain ⟨host, hosted, uHost⟩ := ofAuthority?_digits decimal web read
      refine .inl ⟨u, rfl, fun host' same => ?_⟩
      rw [uHost] at same
      cases same
      exact isDigit_of_ofDomain? decimal hosted
  · refine .inl ⟨⟨scheme, none, none, digits⟩, ?_, fun host none => by cases none⟩
    rw [ofOther?]
    rintro rest rfl
    simpa [isSlash] using isSlash_of_mem_digits decimal (c := '/') (by simp)

end

/-! ## Names without a scheme -/

section

variable {s : List Char} (shown : ∀ c ∈ s, c = ':' ∨ IsNameChar c)
include shown

theorem dropWhile_of_shown {p : Char → Bool} (kept : ∀ c, IsNameChar c → p c = false)
    (colon : p ':' = false) : s.dropWhile p = s := by
  cases s with
  | nil => rfl
  | cons c s =>
    rcases shown c (by simp) with rfl | plain
    · simp [colon]
    · simp [kept c plain]

theorem dropWhileEnd_of_shown {p : Char → Bool} (kept : ∀ c, IsNameChar c → p c = false)
    (colon : p ':' = false) : Text.dropWhileEnd p s = s := by
  have last : ∀ c ∈ s.getLast?, p c = false := fun c last => by
    rcases shown c (List.mem_of_getLast? last) with rfl | plain
    · exact colon
    · exact kept c plain
  simpa using Text.dropWhileEnd_append last []

/-- Nothing is cut off or passed over. -/
theorem withoutBlanks_of_shown : withoutBlanks s = s := by
  rw [withoutBlanks, dropWhile_of_shown shown (fun _ => isOuterBlank_of_isNameChar) rfl,
    dropWhileEnd_of_shown shown (fun _ => isOuterBlank_of_isNameChar) rfl, List.filter_eq_self]
  intro c there
  rcases shown c there with rfl | plain
  · rfl
  · have := isUserChar_of_isNameChar plain
    simp only [isUserChar, Bool.and_eq_true] at this
    exact this.2

/-- Such a text is clean. -/
theorem clean_of_shown : Address.clean (String.ofList s) = String.ofList s := by
  rw [← String.toList_inj, Address.toList_clean, String.toList_ofList, Text.trimChars,
    dropWhile_of_shown shown (fun _ => IsNameChar.isBlank) rfl,
    dropWhileEnd_of_shown shown (fun _ => IsNameChar.isBlank) rfl,
    dropWhileEnd_of_shown shown (fun _ => IsNameChar.isSlash) rfl]

/-- It is read as it is. -/
theorem parse?_of_shown : parse? (String.ofList s) =
    (splitScheme? s).bind fun (scheme, rest) => ofScheme? scheme rest := by
  rw [parse?, String.toList_ofList, withoutBlanks_of_shown shown]

end

theorem noColon_of_isNameChar {c : Char} (plain : IsNameChar c) : (c != ':') = true := by
  have absent : c ∉ [':'] := plain.notMem _ (by decide)
  simpa using absent

/-- A host name has no scheme. -/
theorem splitScheme?_text (h : HostName) : splitScheme? h.text = none := by
  have whole : h.text.span (· != ':') = (h.text, []) :=
    span_of_forall fun c there => noColon_of_isNameChar (HostName.isNameChar_of_mem there)
  rw [splitScheme?, whole]

/-- **What stands before the first colon is a scheme** if it begins with a letter. -/
theorem splitScheme?_append (h : HostName) (rest : List Char) :
    splitScheme? (h.text ++ ':' :: rest) =
      if h.text.head?.any Char.isAlpha then some (String.ofList (lowercase h.text), rest)
      else none := by
  have cut : (h.text ++ ':' :: rest).span (· != ':') = (h.text, ':' :: rest) :=
    span_append (fun c there => noColon_of_isNameChar (HostName.isNameChar_of_mem there))
      (by simp)
  have fits : h.text.all isSchemeChar := by
    rw [List.all_eq_true]
    intro c there
    rcases HostName.isNameChar_of_mem there with plain | rfl
    · simp [isSchemeChar, plain]
    · rfl
  rw [splitScheme?, cut]
  simp only [fits, Bool.and_true]
  cases h.text.head? <;> rfl

/-- **A host name with a number behind it** is an absolute address only where it begins with a
letter. -/
theorem parse?_append (h : HostName) {digits : List Char} (decimal : ∀ c ∈ digits, c.isDigit) :
    parse? (String.ofList (h.text ++ ':' :: digits)) =
      if h.text.head?.any Char.isAlpha then ofScheme? (String.ofList (lowercase h.text)) digits
      else none := by
  have shown : ∀ c ∈ h.text ++ ':' :: digits, c = ':' ∨ IsNameChar c := fun c there => by
    rcases List.mem_append.1 there with name | socket
    · exact .inr (HostName.isNameChar_of_mem name)
    · rcases List.mem_cons.1 socket with colon | digit
      · exact .inl colon
      · exact .inr (Domain.isNameChar_of_isDigit (decimal c digit))
  rw [parse?_of_shown shown, splitScheme?_append]
  split <;> rfl

end Url

/-! ## Verdicts -/

theorem Url.length_of_isWeb {scheme : String} (web : (webSockets.lookup scheme).isSome) :
    scheme.toList.length ≤ 5 := by
  have short : ∀ entry ∈ webSockets, entry.1.toList.length ≤ 5 := by decide
  by_contra long
  have absent : webSockets.lookup scheme = none := by
    rw [List.lookup_eq_none_iff]
    intro entry listed
    rw [bne_iff_ne]
    rintro rfl
    exact long (short entry listed)
  simp [absent] at web

namespace Classifier

/-- A text is not found across a character that it does not hold. -/
theorem infix_append_cons {part s t : List Char} {c : Char} (absent : c ∉ part) :
    part <:+: s ++ c :: t ↔ part <:+: s ∨ part <:+: t := by
  have nil : ∀ l, l <+: c :: t → c ∉ l → l = [] := fun l starts absent => by
    cases l with
    | nil => rfl
    | cons d l => simp_all
  constructor
  · intro inside
    rcases List.infix_append_iff.1 inside with before | behind | ⟨l, r, rfl, ends, starts⟩
    · exact .inl before
    · rcases List.infix_cons_iff.1 behind with here | later
      · rw [nil part here absent]
        exact .inl List.nil_infix
      · exact .inr later
    · rw [nil r starts fun there => absent (by simp [there]), List.append_nil]
      exact .inl ends.isInfix
  · rintro (before | behind)
    · exact before.trans (List.prefix_append s _).isInfix
    · exact behind.trans ((List.suffix_cons c t).trans (List.suffix_append s _)).isInfix

/-- **A bare name shows what it is as it is written.** -/
theorem hasCloudHost_text (cloudDomain : String) (h : HostName) :
    hasCloudHost cloudDomain (String.ofList h.text) ↔ cloudDomain.toList <:+: h.text := by
  have unread : Url.parse? (String.ofList h.text) = none := by
    rw [Url.parse?_of_shown fun c there => .inr (HostName.isNameChar_of_mem there),
      Url.splitScheme?_text, Option.bind_none]
  rw [hasCloudHost, unread, String.toList_ofList, containsText_iff]

/-- The domain of the service as it is by default. -/
def defaultDomain : List Char := Options.defaultCloudDomain.toList

theorem not_infix_of_isDigit {s : List Char} (decimal : ∀ c ∈ s, c.isDigit ∨ c = '.') :
    ¬ defaultDomain <:+: s := fun inside => by
  have := decimal 'c' (inside.subset (by decide))
  simp at this

/-- **A name that begins with a letter shows nothing with a number behind it**: the name is a
scheme, and the number is no host of the service. -/
theorem hasCloudHost_of_isAlpha {h : HostName} (letter : h.text.head?.any Char.isAlpha)
    {digits : List Char} (decimal : ∀ c ∈ digits, c.isDigit) :
    hasCloudHost Options.defaultCloudDomain (String.ofList (h.text ++ ':' :: digits)) =
      false := by
  rw [← Bool.not_eq_true, hasCloudHost, Url.parse?_append h decimal, if_pos letter]
  rcases Url.ofScheme?_digits decimal (String.ofList (lowercase h.text)) with
    ⟨u, read, number⟩ | ⟨refused, web⟩
  · rw [read]
    cases hosted : u.host with
    | none => simp [hosted]
    | some host =>
      simp only [hosted]
      rw [← defaultDomain, containsText_iff]
      exact not_infix_of_isDigit (number host hosted)
  -- The whole text is searched, but the names of the schemes of the web are too short.
  · rw [refused, String.toList_ofList, ← defaultDomain, containsText_iff,
      infix_append_cons (by decide),
      or_iff_left (not_infix_of_isDigit fun c there => .inl (decimal c there))]
    intro inside
    have short := Url.length_of_isWeb web
    have long := inside.length_le
    have length : defaultDomain.length = 11 := by decide
    simp only [String.toList_ofList, lowercase, List.length_map] at short
    omega

/-- **A name with a socket shows what it is** where it begins with a digit. -/
theorem hasCloudHost_text_socket (h : HostName) (n : Nat) :
    hasCloudHost Options.defaultCloudDomain
      (String.ofList (h.text ++ ':' :: Nat.toDigits 10 n)) ↔
      h.text.head?.any Char.isDigit ∧ defaultDomain <:+: h.text := by
  have decimal : ∀ c ∈ Nat.toDigits 10 n, c.isDigit := fun c there =>
    Nat.isDigit_of_mem_toDigits (by decide) (by decide) there
  obtain ⟨c, rest, text, plain⟩ := h.exists_head
  by_cases letter : c.isAlpha
  · have noDigit : c.isDigit = false := by
      rw [Bool.eq_false_iff, ne_eq, Domain.isDigit_iff]
      rw [Domain.isAlpha_iff] at letter
      omega
    rw [hasCloudHost_of_isAlpha (by simp [text, letter]) decimal]
    simp [text, noDigit]
  · have digit : c.isDigit := by
      simpa [Char.isAlphanum, letter] using plain
    rw [hasCloudHost, Url.parse?_append h decimal, if_neg (by simp [text, letter]),
      String.toList_ofList, ← defaultDomain, containsText_iff, infix_append_cons (by decide),
      or_iff_left (not_infix_of_isDigit fun c there => .inl (decimal c there))]
    simp [text, digit]

/-- What is found as it is written is found in small letters. -/
theorem infix_lowercase {name : List Char} (inside : defaultDomain <:+: name) :
    defaultDomain <:+: lowercase name := by
  have small : lowercase defaultDomain = defaultDomain := by decide
  rw [← small]
  exact inside.map Char.toLower

section

variable {σ : Type} {classifier : Classifier σ}
  (standard : classifier.cloudDomain = Options.defaultCloudDomain)
  (silent : ∀ url s, (classifier.isUp url s).1 = false)
include standard silent

/-- A page is of the service if its host shows it in small letters, where no server answers. -/
theorem isCloud_silent_web (a : PlainAuthority) (s : σ) :
    (classifier.isCloud (some (String.ofList (a.web []))) s).1 ↔
      defaultDomain <:+: lowercase a.host.text := by
  obtain ⟨shows, asks⟩ := classifier.isCloud_web a Url.isTail_nil
  rw [standard, ← defaultDomain] at shows asks
  by_cases inside : defaultDomain <:+: lowercase a.host.text
  · rw [shows inside]
    exact iff_of_true rfl inside
  · rw [asks inside, silent]
    exact iff_of_false nofun inside

/-- An address without a page is of the service if it shows it, where no server answers. -/
theorem isCloud_silent_shown {t : List Char} (shown : ∀ c ∈ t, c = ':' ∨ IsNameChar c)
    (ne : t ≠ []) (s : σ) : (classifier.isCloud (some (String.ofList t)) s).1 =
      hasCloudHost Options.defaultCloudDomain (String.ofList t) := by
  have clean := Url.clean_of_shown shown
  have present : Address.clean (String.ofList t) ≠ "" := by
    rw [clean, ne_eq, String.ofList_eq_empty_iff]
    exact ne
  rw [classifier.isCloud_of_clean_ne present, clean, standard]
  by_cases shows : hasCloudHost Options.defaultCloudDomain (String.ofList t)
  · rw [if_pos shows, shows]
    rfl
  · rw [if_neg shows, silent, Bool.eq_false_iff.2 shows]

/-- An authority is of the service if it shows it, where no server answers. -/
theorem isCloud_silent_text {a : PlainAuthority} (noUser : a.user = none) (s : σ) :
    (classifier.isCloud (some (String.ofList a.text)) s).1 =
      hasCloudHost Options.defaultCloudDomain (String.ofList a.text) := by
  refine isCloud_silent_shown standard silent ?_ a.text_ne_nil s
  rw [PlainAuthority.text, noUser]
  exact fun c => PlainAuthority.isNameChar_of_mem_append

end

/-- The spellings of the address of a server: its name and its page, each without and with the
number of a socket. -/
def spellings (h : HostName) (n : Nat) : List String :=
  [String.ofList h.text, String.ofList h.text ++ ":" ++ toString n,
    "https://" ++ String.ofList h.text, "https://" ++ String.ofList h.text ++ ":" ++ toString n]

/-- **When the spellings of an address agree.**  If no server answers, a page is of the service
where the name in small letters contains the domain; the bare name is where it contains the
domain as it is written; and the name with a socket is where, besides, it begins with a digit.
So all four agree unless the name contains the domain in small letters, and it does not contain
it as it is written or begins with a letter. -/
theorem isCloud_spellings {σ : Type} (classifier : Classifier σ)
    (standard : classifier.cloudDomain = Options.defaultCloudDomain)
    (silent : ∀ url s, (classifier.isUp url s).1 = false) (h : HostName) {n : Nat}
    (most : n ≤ Url.Authority.greatestSocket) (s : σ) :
    let verdict (url : String) : Bool := (classifier.isCloud (some url) s).1
    (verdict ("https://" ++ String.ofList h.text) ↔ defaultDomain <:+: lowercase h.text) ∧
    (verdict ("https://" ++ String.ofList h.text ++ ":" ++ toString n) ↔
      defaultDomain <:+: lowercase h.text) ∧
    (verdict (String.ofList h.text) ↔ defaultDomain <:+: h.text) ∧
    (verdict (String.ofList h.text ++ ":" ++ toString n) ↔
      h.text.head?.any Char.isDigit ∧ defaultDomain <:+: h.text) ∧
    ((∀ a ∈ spellings h n, ∀ b ∈ spellings h n, verdict a = verdict b) ↔
      (defaultDomain <:+: lowercase h.text →
        h.text.head?.any Char.isDigit ∧ defaultDomain <:+: h.text)) := by
  intro verdict
  let bare : PlainAuthority := ⟨none, h, none, nofun, nofun⟩
  let full : PlainAuthority := ⟨none, h, some n, nofun, by simpa using most⟩
  have name : String.ofList bare.text = String.ofList h.text := by
    simp [bare, PlainAuthority.text, PlainAuthority.socketText]
  have nameSocket : String.ofList full.text = String.ofList h.text ++ ":" ++ toString n := by
    simp [full, PlainAuthority.text, PlainAuthority.socketText, ← String.toList_inj]
  have page (a : PlainAuthority) : verdict ("https://" ++ String.ofList a.text) ↔
      defaultDomain <:+: lowercase a.host.text := by
    rw [← a.ofList_web_nil]
    exact isCloud_silent_web standard silent a s
  have text (a : PlainAuthority) (noUser : a.user = none) : verdict (String.ofList a.text) =
      hasCloudHost Options.defaultCloudDomain (String.ofList a.text) :=
    isCloud_silent_text standard silent noUser s
  have barePage := page bare
  have fullPage := page full
  have bareName : verdict (String.ofList bare.text) ↔ defaultDomain <:+: h.text := by
    rw [text bare rfl, name]
    exact hasCloudHost_text _ h
  have fullName : verdict (String.ofList full.text) ↔
      h.text.head?.any Char.isDigit ∧ defaultDomain <:+: h.text := by
    rw [text full rfl]
    exact hasCloudHost_text_socket h n
  rw [name] at barePage bareName
  rw [nameSocket, ← String.append_assoc, ← String.append_assoc] at fullPage
  rw [nameSocket] at fullName
  refine ⟨barePage, fullPage, bareName, fullName, fun agree inside => ?_, fun found => ?_⟩
  · have same := agree (String.ofList h.text ++ ":" ++ toString n) (by simp [spellings])
      ("https://" ++ String.ofList h.text) (by simp [spellings])
    exact fullName.1 (same.trans (barePage.2 inside))
  · have all : ∀ a ∈ spellings h n, (verdict a ↔ defaultDomain <:+: lowercase h.text) := by
      simp only [spellings, List.forall_mem_cons, List.not_mem_nil, false_imp_iff,
        implies_true, and_true]
      exact ⟨bareName.trans ⟨infix_lowercase, fun inside => (found inside).2⟩,
        fullName.trans ⟨fun shows => infix_lowercase shows.2, found⟩, barePage, fullPage⟩
    exact fun a ha b hb => Bool.eq_iff_iff.2 ((all a ha).trans (all b hb).symm)

/-- A classifier whose servers never answer. -/
def unanswered : Classifier Unit := ⟨Options.defaultCloudDomain, fun _ => pure false⟩

/-- A name that begins with a digit is of the service however it is spelled. -/
theorem isCloud_spellings_digit :
    let h : HostName :=
      ⟨["0".toList, "codescan".toList, "io".toList], by decide, by decide, by decide⟩
    (443 ≤ Url.Authority.greatestSocket ∧
      unanswered.cloudDomain = Options.defaultCloudDomain) ∧
    ∀ a ∈ spellings h 443, ∀ b ∈ spellings h 443,
      (unanswered.isCloud (some a) ()).1 = (unanswered.isCloud (some b) ()).1 := by
  intro h
  have verdicts :=
    isCloud_spellings unanswered rfl (fun _ _ => rfl) h (n := 443) (by decide) ()
  exact ⟨by decide, verdicts.2.2.2.2.2 (by decide +kernel)⟩

/-- A socket behind the name, or a capital in it, hides that a server is of the service. -/
theorem isCloud_spellings_differ :
    let small : HostName :=
      ⟨["app".toList, "codescan".toList, "io".toList], by decide, by decide, by decide⟩
    let capital : HostName :=
      ⟨["App".toList, "CodeScan".toList, "io".toList], by decide, by decide, by decide⟩
    ¬ (∀ a ∈ spellings small 443, ∀ b ∈ spellings small 443,
      (unanswered.isCloud (some a) ()).1 = (unanswered.isCloud (some b) ()).1) ∧
    ¬ (∀ a ∈ spellings capital 443, ∀ b ∈ spellings capital 443,
      (unanswered.isCloud (some a) ()).1 = (unanswered.isCloud (some b) ()).1) := by
  decide +kernel

end Classifier

end ServerConnections
