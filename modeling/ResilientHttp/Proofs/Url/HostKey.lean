import ResilientHttp.HostKey
import ResilientHttp.Proofs.Url.Parts

/-!
# What a host key says

A host key is a text, and a text can be read back. The scheme ends at the first colon; behind the two
slashes after it stand the host and, behind another colon, the port. The port is read from the end: it
is the digits there, if a colon stands before them. A host without colons cannot be taken for a host
with a port, and a host between brackets does not end in a digit, so what is read back is what was
written (`HostKey.parts_ofUrl`).

Two URLs therefore have the same key exactly if they agree in scheme and host, up to the case of ASCII
letters, and in the port (`HostKey.names_host`).
-/

set_option autoImplicit false

namespace ResilientHttp

namespace Text

/-- A mark that is no letter stands in a folded text where it stands in the text. -/
theorem mem_fold_iff {mark : Char} (small : mark.toNat < 'a'.toNat ∨ 'z'.toNat < mark.toNat)
    (large : mark.toNat < 'A'.toNat ∨ 'Z'.toNat < mark.toNat) (text : String) :
    mark ∈ (fold text).toList ↔ mark ∈ text.toList := by
  rw [fold_toList, List.mem_map]
  constructor
  · rintro ⟨character, member, lowered⟩
    rwa [(toLower_eq_iff small large character).1 lowered] at member
  · intro member
    exact ⟨mark, member, (toLower_eq_iff small large mark).2 rfl⟩

/-- Before the first character that satisfies a condition nothing else does. -/
theorem breakAt_append {stop : Char → Bool} {front : List Char} {mark : Char}
    (free : ∀ character ∈ front, stop character = false) (stops : stop mark = true)
    (back : List Char) : breakAt stop (front ++ mark :: back) = (front, mark :: back) := by
  unfold breakAt
  rw [List.takeWhile_append_of_pos (by simpa using free),
    List.dropWhile_append_of_pos (by simpa using free), List.takeWhile_cons_of_neg (by simp [stops]),
    List.dropWhile_cons_of_neg (by simp [stops]), List.append_nil]

end Text

namespace HostKey

/-- The host and the port that the second half of a key spells. -/
def splitAddress (address : List Char) : String × Option Nat :=
  match Text.breakAt (!Char.isDigit ·) address.reverse with
  | (last :: others, ':' :: host) =>
    (String.ofList host.reverse, some (Nat.ofDigitChars 10 (last :: others).reverse 0))
  | _ => (String.ofList address, none)

/-- The scheme, the host and the port that a key spells. -/
def parts (key : HostKey) : String × String × Option Nat :=
  let (scheme, rest) := Text.breakAt (· = ':') key.text.toList
  (String.ofList scheme, splitAddress (rest.drop 3))

/-- A host is not taken for a host with a port: if it has a colon, it does not end in a digit. -/
theorem splitAddress_of_no_port {host : String} (hostLike : Url.HostLike host) :
    splitAddress host.toList = (host, none) := by
  unfold splitAddress
  split
  · rename_i last others front broken
    have whole := Text.append_breakAt (!Char.isDigit ·) host.toList.reverse
    rw [broken] at whole
    have colon : ':' ∈ host.toList := by
      rw [← List.mem_reverse, ← whole]
      simp
    obtain ⟨inside, rfl⟩ := hostLike colon
    have bracket : (Text.breakAt (!Char.isDigit ·) ("[" ++ inside ++ "]").toList.reverse).1 = [] := by
      rw [String.toList_append, List.reverse_append]
      rfl
    rw [broken] at bracket
    cases bracket
  · rw [String.ofList_toList]

/-- The digits after the last colon are the port. -/
theorem splitAddress_of_port (host : String) (port : Nat) :
    splitAddress (host ++ ":" ++ toString port).toList = (host, some port) := by
  have reversed : (host ++ ":" ++ toString port).toList.reverse =
      (Nat.toDigits 10 port).reverse ++ ':' :: host.toList.reverse := by
    simp [String.toList_append]
  have digits : ∀ character ∈ (Nat.toDigits 10 port).reverse, (!character.isDigit) = false := by
    intro character member
    rw [Nat.isDigit_of_mem_toDigits (by decide) (by decide) (List.mem_reverse.1 member)]
    rfl
  have broken : Text.breakAt (!Char.isDigit ·)
        ((Nat.toDigits 10 port).reverse ++ ':' :: host.toList.reverse) =
      ((Nat.toDigits 10 port).reverse, ':' :: host.toList.reverse) :=
    Text.breakAt_append digits (by decide) _
  unfold splitAddress
  rw [reversed, broken]
  cases spelled : (Nat.toDigits 10 port).reverse with
  | nil => exact absurd (List.reverse_eq_nil_iff.1 spelled) Nat.toDigits_ne_nil
  | cons last others =>
      have number : Nat.ofDigitChars 10 (last :: others).reverse 0 = port := by
        rw [← spelled, List.reverse_reverse, Nat.ofDigitChars_ten_toDigits]
      simp only [number, List.reverse_reverse, String.ofList_toList]

theorem hostLike_fold {host : String} (hostLike : Url.HostLike host) :
    Url.HostLike (Text.fold host) := by
  intro colon
  obtain ⟨inside, rfl⟩ := hostLike ((Text.mem_fold_iff (by decide) (by decide) host).1 colon)
  exact ⟨Text.fold inside, by simp [← String.toList_inj, Text.fold_toList]⟩

/-- The part of a key before its port. -/
theorem parts_of_base {scheme : String} (plain : ':' ∉ scheme.toList) (address : String) :
    (⟨scheme ++ "://" ++ address⟩ : HostKey).parts = (scheme, splitAddress address.toList) := by
  have free : ∀ character ∈ scheme.toList, decide (character = ':') = false :=
    fun _ member => decide_eq_false fun same => plain (same ▸ member)
  have broken : Text.breakAt (· = ':') (scheme.toList ++ ':' :: '/' :: '/' :: address.toList) =
      (scheme.toList, ':' :: '/' :: '/' :: address.toList) :=
    Text.breakAt_append free (by decide) _
  have text : (scheme ++ "://" ++ address).toList =
      scheme.toList ++ ':' :: '/' :: '/' :: address.toList := by
    simp [String.toList_append]
  simp only [parts, text, broken, String.ofList_toList]
  rfl

/-- A key can be read back. -/
theorem parts_ofUrl {url : Url} (delimited : url.Delimited) :
    (ofUrl url).parts = (Text.fold url.scheme, Text.fold url.hostText, url.port) := by
  have plain : ':' ∉ (Text.fold url.scheme).toList :=
    mt (Text.mem_fold_iff (by decide) (by decide) url.scheme).1 delimited.scheme
  unfold ofUrl
  cases port : url.port with
  | none =>
      rw [parts_of_base plain, splitAddress_of_no_port (hostLike_fold delimited.host)]
  | some number =>
      have key := parts_of_base plain (Text.fold url.hostText ++ ":" ++ toString number)
      rw [splitAddress_of_port, ← String.append_assoc, ← String.append_assoc] at key
      exact key

/-! ## Which URLs share a key -/

/-- **A key names one host.** A URL that was read has a scheme without colons, a host with colons
only between brackets, and no usual port. Of every such URL the key can be read back, so two of them
have the same key exactly if scheme and host agree up to the case of ASCII letters and the ports are
the same. Nothing else about a URL matters. -/
theorem names_host :
    (∀ input url, Url.read input = .ok url →
      url.Delimited ∧ ∀ port, url.port = some port → Url.usualPort url.scheme ≠ some port) ∧
    (∀ url : Url, url.Delimited →
      (ofUrl url).parts = (Text.fold url.scheme, Text.fold url.hostText, url.port)) ∧
    (∀ first second : Url, first.Delimited → second.Delimited →
      (ofUrl first = ofUrl second ↔
        Text.sameFold first.scheme second.scheme = true ∧
          Text.sameFold first.hostText second.hostText = true ∧ first.port = second.port)) ∧
    ∀ (url : Url) username password hasAuthority path query fragment,
      ofUrl { url with username, password, hasAuthority, path, query, fragment } = ofUrl url := by
  refine ⟨?_, fun _ => parts_ofUrl, ?_, ?_⟩
  · intro input url found
    exact ⟨Url.delimited_of_read found, fun _ => Url.port_of_read found⟩
  · intro first second one other
    rw [Text.sameFold_iff, Text.sameFold_iff]
    constructor
    · intro same
      have parts := congrArg parts same
      rw [parts_ofUrl one, parts_ofUrl other, Prod.mk.injEq, Prod.mk.injEq] at parts
      exact parts
    · rintro ⟨scheme, host, port⟩
      rw [ofUrl, ofUrl, scheme, host, port]
  · intro url username password hasAuthority path query fragment
    rfl

/-- What `https://me@Registry.Example.org:443/a` spells. -/
def registryUrl : Url :=
  { scheme := "https", username := "me", host := some "registry.example.org", hasAuthority := true
    path := "/a" }

/-- What `HTTPS://registry.example.org?b` spells. -/
def queriedUrl : Url :=
  { scheme := "https", host := some "registry.example.org", hasAuthority := true, path := "/"
    query := some "b" }

/-- What `git://[::1]:22` spells. -/
def loopbackUrl : Url :=
  { scheme := "git", host := some "[::1]", port := some 22, hasAuthority := true }

/-- Two spellings of one host have one key, and the port of an address full of colons is found. -/
theorem names_host_registryUrl :
    Url.read "https://me@Registry.Example.org:443/a" = .ok registryUrl ∧
      Url.read "HTTPS://registry.example.org?b" = .ok queriedUrl ∧
      Url.read "git://[::1]:22" = .ok loopbackUrl ∧
      registryUrl.Delimited ∧ queriedUrl.Delimited ∧ loopbackUrl.Delimited ∧
      ofUrl registryUrl = ofUrl queriedUrl ∧ ofUrl registryUrl ≠ ofUrl loopbackUrl ∧
      (ofUrl loopbackUrl).parts = ("git", "[::1]", some 22) := by
  have first : Url.read "https://me@Registry.Example.org:443/a" = .ok registryUrl := by
    decide +kernel
  have second : Url.read "HTTPS://registry.example.org?b" = .ok queriedUrl := by decide +kernel
  have third : Url.read "git://[::1]:22" = .ok loopbackUrl := by decide +kernel
  obtain ⟨delimited, parts, same, -⟩ := names_host
  have registry := (delimited _ _ first).1
  have queried := (delimited _ _ second).1
  have loopback := (delimited _ _ third).1
  refine ⟨first, second, third, registry, queried, loopback, ?_, ?_, ?_⟩
  · exact (same _ _ registry queried).2 ⟨Text.sameFold_refl _, Text.sameFold_refl _, rfl⟩
  · exact fun equal => absurd ((same _ _ registry loopback).1 equal).2.2 (by decide)
  · exact (parts _ loopback).trans (by decide +kernel)

end HostKey

end ResilientHttp
