import Mathlib.Data.List.Infix
import ServerConnections.Proofs.Domain.HostName
import ServerConnections.Url.Basic

/-!
# Web addresses with plain authorities

Whatever stands before and behind its host, a web address has that host.  A user name ends at
the last at sign, for a host name has none; the host ends at its colon or where the authority
ends.  What is behind the authority may be any text: it starts with a character that ends the
authority, and blanks that are cut off or passed over are all behind that character.

* `Authority.splitUser_append`, `Authority.splitSocket_append` — where an authority is cut
* `PlainAuthority.ofText?_text` — the host and the socket of a plain authority
* `PlainAuthority.parse?_web` — the host of a web address, whatever is behind it
-/

namespace ServerConnections.Url

open Domain (HostName IsNameChar)

/-! ## Cutting an authority -/

/-- A text is cut where its first part ends. -/
theorem span_append {p : Char → Bool} {s rest : List Char} (inside : ∀ c ∈ s, p c)
    (ends : ∀ c ∈ rest.head?, p c = false) : (s ++ rest).span p = (s, rest) := by
  rw [List.span_eq_takeWhile_dropWhile, List.takeWhile_append_of_pos inside,
    List.dropWhile_append_of_pos inside]
  cases rest with
  | nil => simp
  | cons c rest => simp [ends c rfl]

/-- A text that goes on to its end is not cut. -/
theorem span_of_forall {p : Char → Bool} {s : List Char} (inside : ∀ c ∈ s, p c) :
    s.span p = (s, []) := by
  have whole : (s ++ []).span p = (s, []) := span_append inside (by simp)
  rwa [List.append_nil] at whole

namespace Authority

theorem splitUser_of_notMem {s : List Char} (noUser : '@' ∉ s) : splitUser s = (none, s) := by
  have whole : s.reverse.span (· != '@') = (s.reverse, []) := span_of_forall (by grind)
  rw [splitUser, whole]

/-- **A user name ends at the last at sign.** -/
theorem splitUser_append (user : List Char) {s : List Char} (noUser : '@' ∉ s) :
    splitUser (user ++ '@' :: s) = (some user, s) := by
  have cut : (user ++ '@' :: s).reverse.span (· != '@') =
      (s.reverse, '@' :: user.reverse) := by
    rw [List.reverse_append, List.reverse_cons, List.append_assoc, List.singleton_append]
    exact span_append (by grind) (by simp)
  rw [splitUser, cut]
  simp

/-- **A socket stands behind the first colon**, unless brackets open before it. -/
theorem splitSocket_append {s : List Char} (plain : ∀ c ∈ s, c ≠ ':' ∧ c ≠ '[')
    (rest : List Char) : splitSocket false (s ++ rest) =
      (s ++ (splitSocket false rest).1, (splitSocket false rest).2) := by
  induction s with
  | nil => rfl
  | cons c s ih =>
    have here := plain c (by simp)
    have later := ih fun d there => plain d (by simp [there])
    simp [splitSocket, here, later]

end Authority

theorem digitsValue?_of_isDigit {digits : List Char} (decimal : ∀ c ∈ digits, c.isDigit)
    (n : Nat) : digitsValue? 10 n digits = some (Nat.ofDigitChars 10 digits n) := by
  induction digits generalizing n with
  | nil => rfl
  | cons c digits ih =>
    have here : 48 ≤ c.toNat ∧ c.toNat ≤ 57 := Domain.isDigit_iff.1 (decimal c (by simp))
    rw [digitsValue?, digit?_ten, if_pos here, Option.bind_some,
      ih fun d there => decimal d (by simp [there]), Nat.ofDigitChars_cons, Nat.mul_comm]
    rfl

/-- **The number of a socket is read back.** -/
theorem Authority.socket?_toDigits {n : Nat} (most : n ≤ greatestSocket) :
    socket? (Nat.toDigits 10 n) = some (some n) := by
  have decimal : ∀ c ∈ Nat.toDigits 10 n, c.isDigit := fun c there =>
    Nat.isDigit_of_mem_toDigits (by decide) (by decide) there
  have noEnd : (Nat.toDigits 10 n).takeWhile (· != '\\') = Nat.toDigits 10 n := by
    have inside : ∀ c ∈ Nat.toDigits 10 n, (c != '\\') = true := fun c there => by
      have := Domain.isDigit_iff.1 (decimal c there)
      simp only [bne_iff_ne, ne_eq]
      rintro rfl
      simp at this
    have whole := span_of_forall inside
    rw [List.span_eq_takeWhile_dropWhile] at whole
    exact congrArg Prod.fst whole
  have value : digitsValue? 10 0 (Nat.toDigits 10 n) = some n := by
    rw [digitsValue?_of_isDigit decimal, Nat.ofDigitChars_ten_toDigits]
  rw [socket?, noEnd]
  split
  · exact (Nat.toDigits_ne_nil ‹_›).elim
  · rw [value, Option.filter_some, if_pos (by simpa using most)]
    rfl

/-! ## Plain authorities -/

/-- Whether a character may stand in a user name: it neither ends the authority nor is it
passed over. -/
def isUserChar (c : Char) : Bool := !endsAuthority true c && !isInnerBlank c

theorem isUserChar_of_isNameChar {c : Char} (plain : IsNameChar c) : isUserChar c := by
  have absent : c ∉ ['/', '?', '#', '\\', '\t', '\n', '\r'] := plain.notMem _ (by decide)
  simpa [isUserChar, endsAuthority, isInnerBlank, and_assoc] using absent

theorem isOuterBlank_of_isNameChar {c : Char} (plain : IsNameChar c) :
    isOuterBlank c = false := by
  have := plain.toNat
  simp only [isOuterBlank, decide_eq_false_iff_not]
  omega

theorem isSlash_of_isNameChar {c : Char} (plain : IsNameChar c) : isSlash c = false := by
  have absent : c ∉ ['/', '\\'] := plain.notMem _ (by decide)
  simpa [isSlash] using absent

/-- **An authority as people write it**: a host name of letters and digits, with a user name
before it and the number of a socket behind it, if there are any. -/
structure PlainAuthority where
  user : Option (List Char)
  host : HostName
  socket : Option Nat
  isUserChar : ∀ name ∈ user, name.all isUserChar
  socket_le : ∀ n ∈ socket, n ≤ Authority.greatestSocket

namespace PlainAuthority

/-- The number of the socket, behind its colon. -/
def socketText (a : PlainAuthority) : List Char :=
  match a.socket with
  | some n => ':' :: Nat.toDigits 10 n
  | none => []

/-- The authority as it is written. -/
def text (a : PlainAuthority) : List Char :=
  match a.user with
  | some name => name ++ '@' :: (a.host.text ++ a.socketText)
  | none => a.host.text ++ a.socketText

theorem isNameChar_of_mem_socketText {a : PlainAuthority} {c : Char}
    (there : c ∈ a.socketText) :
    c = ':' ∨ IsNameChar c := by
  rw [socketText] at there
  split at there
  · rcases List.mem_cons.1 there with colon | digit
    · exact .inl colon
    · have := Nat.isDigit_of_mem_toDigits (by decide) (by decide) digit
      exact .inr (.inl (by simp [Char.isAlphanum, this]))
  · cases there

/-- What stands behind the user name: the host and the socket. -/
theorem isNameChar_of_mem_append {a : PlainAuthority} {c : Char}
    (there : c ∈ a.host.text ++ a.socketText) : c = ':' ∨ IsNameChar c := by
  rcases List.mem_append.1 there with host | socket
  · exact .inr (HostName.isNameChar_of_mem host)
  · exact isNameChar_of_mem_socketText socket

/-- **No character of an authority ends it**, and none is passed over. -/
theorem isUserChar_of_mem {a : PlainAuthority} {c : Char} (there : c ∈ a.text) :
    Url.isUserChar c := by
  have behind : ∀ c ∈ a.host.text ++ a.socketText, Url.isUserChar c := fun c there => by
    rcases isNameChar_of_mem_append there with rfl | plain
    · decide
    · exact isUserChar_of_isNameChar plain
  rw [text] at there
  split at there
  · rename_i name user
    rcases List.mem_append.1 there with before | at_
    · exact List.all_eq_true.1 (a.isUserChar name user) c before
    · rcases List.mem_cons.1 at_ with rfl | later
      · decide
      · exact behind c later
  · exact behind c there

theorem text_ne_nil (a : PlainAuthority) : a.text ≠ [] := by
  rw [text]
  split <;> simp [a.host.text_ne_nil]

/-- The last character is one of a host name: a letter, a digit or a dot. -/
theorem isNameChar_of_getLast? {a : PlainAuthority} {c : Char} (last : c ∈ a.text.getLast?) :
    IsNameChar c := by
  have behind : (a.host.text ++ a.socketText).getLast? = some c := by
    rw [text] at last
    split at last
    · rwa [List.append_cons, List.getLast?_append_of_ne_nil _ (by simp [a.host.text_ne_nil])]
        at last
    · exact last
  rw [socketText] at behind
  split at behind
  · rw [List.append_cons, List.getLast?_append_of_ne_nil _ Nat.toDigits_ne_nil] at behind
    have digit :=
      Nat.isDigit_of_mem_toDigits (by decide) (by decide) (List.mem_of_getLast? behind)
    exact .inl (by simp [Char.isAlphanum, digit])
  · rw [List.append_nil] at behind
    exact HostName.isNameChar_of_mem (List.mem_of_getLast? behind)

/-- **The host and the socket of an authority are read back**, the host in small letters. -/
theorem ofText?_text (a : PlainAuthority) (default : Option Nat) (hasMore : Bool) :
    Authority.ofText? ⟨true, default⟩ hasMore a.text =
      some ⟨some (.name a.host.lower.text), a.socket.filter fun n => default != some n⟩ := by
  have cut : ∃ user, Authority.splitUser a.text = (user, a.host.text ++ a.socketText) := by
    have noAt : '@' ∉ a.host.text ++ a.socketText := fun there => by
      have := isNameChar_of_mem_append there
      simp [IsNameChar] at this
    rw [text]
    split
    · exact ⟨_, Authority.splitUser_append _ noAt⟩
    · exact ⟨_, Authority.splitUser_of_notMem noAt⟩
  obtain ⟨user, cut⟩ := cut
  have plain : ∀ c ∈ a.host.text, c ≠ ':' ∧ c ≠ '[' := fun c there => by
    have absent : c ∉ [':', '['] := (HostName.isNameChar_of_mem there).notMem _ (by decide)
    simpa using absent
  have socket : (Authority.splitSocket false a.socketText).1 = [] ∧
      Authority.socket? ((Authority.splitSocket false a.socketText).2.getD []) =
        some a.socket := by
    rw [socketText]
    split
    · rename_i n socket
      simp [Authority.splitSocket, Authority.socket?_toDigits (a.socket_le n socket), socket]
    · rename_i socket
      simp [Authority.splitSocket, Authority.socket?, socket]
  have host : Authority.host? true a.host.text = some (some (.name a.host.lower.text)) := by
    rw [Authority.host?, if_pos rfl, a.host.ofDomain?_text]
    rfl
  simp [Authority.ofText?, cut, Authority.splitSocket_append plain, a.host.text_ne_nil, socket,
    host]

end PlainAuthority

/-! ## Web addresses -/

/-- **What may stand behind an authority**: nothing, or any text that starts with a character
that ends the authority. -/
def IsTail (tail : List Char) : Prop := ∀ c ∈ tail.head?, endsAuthority true c

theorem isTail_nil : IsTail [] := nofun

theorem isTail_slash (rest : List Char) : IsTail ('/' :: rest) := by
  rintro _ ⟨⟩
  rfl

namespace IsTail

theorem shortened {tail shorter : List Char} (isTail : IsTail tail)
    (start : shorter <+: tail) : IsTail shorter := by
  obtain ⟨rest, rfl⟩ := start
  cases shorter with
  | nil => exact isTail_nil
  | cons c cs => exact isTail

/-- Nothing is passed over where a tail starts. -/
theorem filter {tail : List Char} (isTail : IsTail tail) :
    IsTail (tail.filter (!isInnerBlank ·)) := by
  cases tail with
  | nil => exact isTail_nil
  | cons c cs =>
    have ends : endsAuthority true c := isTail c rfl
    have visible : isInnerBlank c = false := by
      simp only [endsAuthority, isInnerBlank] at ends ⊢
      grind
    rw [List.filter_cons, if_pos (by simp [visible])]
    exact isTail

end IsTail

namespace PlainAuthority

variable (a : PlainAuthority)

/-- What stands before the authority of a web page. -/
def pageMark : List Char := ['h', 't', 't', 'p', 's', ':', '/', '/']

/-- The address of a web page with an authority, `tail` being behind it. -/
def web (tail : List Char) : List Char := pageMark ++ (a.text ++ tail)

theorem ofList_web_nil : String.ofList (a.web []) = "https://" ++ String.ofList a.text := by
  simp [web, pageMark, ← String.toList_inj]

/-- The last character before the tail is kept wherever characters of host names are. -/
theorem dropWhileEnd_web {p : Char → Bool} (kept : ∀ c, IsNameChar c → p c = false)
    (tail : List Char) :
    Text.dropWhileEnd p (a.web tail) = a.web (Text.dropWhileEnd p tail) := by
  rw [web, web, ← List.append_assoc, ← List.append_assoc]
  refine Text.dropWhileEnd_append (fun c last => ?_) tail
  rw [List.getLast?_append_of_ne_nil _ a.text_ne_nil] at last
  exact kept c (isNameChar_of_getLast? last)

/-- **Blanks are cut off and passed over behind the authority only.** -/
theorem withoutBlanks_web {tail : List Char} (isTail : IsTail tail) :
    ∃ shown, withoutBlanks (a.web tail) = a.web shown ∧ IsTail shown := by
  have front : (a.web tail).dropWhile isOuterBlank = a.web tail := rfl
  have visible : a.text.filter (!isInnerBlank ·) = a.text := by
    rw [List.filter_eq_self]
    intro c there
    have := isUserChar_of_mem there
    simp only [Url.isUserChar, Bool.and_eq_true] at this
    exact this.2
  refine ⟨(Text.dropWhileEnd isOuterBlank tail).filter (!isInnerBlank ·), ?_,
    (isTail.shortened (Text.dropWhileEnd_isPrefix _ _)).filter⟩
  rw [withoutBlanks, front, a.dropWhileEnd_web fun _ => isOuterBlank_of_isNameChar, web,
    List.filter_append, List.filter_append, visible]
  rfl

theorem ofAuthority?_text {scheme : String} (web : (webSockets.lookup scheme).isSome)
    {tail : List Char} (isTail : IsTail tail) :
    ∃ u, ofAuthority? scheme (a.text ++ tail) = some u ∧
      u.host = some (.name a.host.lower.text) := by
  have cut : (a.text ++ tail).span (!endsAuthority true ·) = (a.text, tail) := by
    refine span_append (fun c there => ?_) fun c head => by simp [isTail c head]
    have := isUserChar_of_mem there
    simp only [Url.isUserChar, Bool.and_eq_true] at this
    exact this.1
  rw [ofAuthority?]
  simp only [web, cut, a.ofText?_text, Option.map_some]
  exact ⟨_, rfl, rfl⟩

/-- **A web address has the host of its authority**, whatever is behind it. -/
theorem parse?_web {tail : List Char} (isTail : IsTail tail) : ∃ u,
    parse? (String.ofList (a.web tail)) = some u ∧
    u.host = some (.name a.host.lower.text) := by
  obtain ⟨shown, blanks, isTail⟩ := a.withoutBlanks_web isTail
  have scheme : splitScheme? (a.web shown) = some ("https", '/' :: '/' :: (a.text ++ shown)) :=
    rfl
  have slashes : ('/' :: '/' :: (a.text ++ shown)).dropWhile isSlash = a.text ++ shown := by
    obtain ⟨c, rest, text⟩ := List.exists_cons_of_ne_nil a.text_ne_nil
    have noEnd := isUserChar_of_mem (a := a) (c := c) (by simp [text])
    have noSlash : isSlash c = false := by
      simp only [Url.isUserChar, endsAuthority, isSlash] at noEnd ⊢
      grind
    rw [text]
    simp [isSlash.eq_1 '/', noSlash]
  rw [parse?, String.toList_ofList, blanks, scheme, Option.bind_some]
  simp only [ofScheme?]
  rw [if_neg (by decide), if_pos (by decide), slashes]
  exact a.ofAuthority?_text (by decide) isTail

end PlainAuthority

end ServerConnections.Url
